import SqlClient.Embedded.Engine
import SqlClient.Engine.Scripted

namespace SqlClient

/-!
# Handles that share nothing

A handle shares nothing with others if neither what it answers nor what becomes of it depends
on the world of its engine.

* `Engine.Detached` — handles of a kind share nothing.
* `Script.engine_detached` — so do all handles of a scripted engine.
* `Embedded.engine_detached` — so do the handles of databases in memory.
-/

/-- Handles of a kind share nothing: whatever the world is, a call goes the same way, and
    leaves a handle of the kind. -/
structure Engine.Detached {World Handle : Type} (engine : Engine World Handle)
    (own : Handle → Prop) : Prop where
  submit : ∀ h statement params, own h → ∃ h' outcome, own h' ∧
    ∀ world, (engine.submit world h statement params).2 = (h', outcome)
  batch : ∀ h sql, own h → ∃ h' outcome, own h' ∧
    ∀ world, (engine.batch world h sql).2 = (h', outcome)
  close : ∀ h, own h → ∃ result, ∀ world, (engine.close world h).2 = result

/-- A scripted handle answers from its script and its own count of calls, so all of them share
    nothing. -/
theorem Script.engine_detached (script : Script) : script.engine.Detached fun _ => True where
  submit h statement params _ :=
    ⟨(script.submit h statement params).1, (script.submit h statement params).2, trivial,
      fun _ => rfl⟩
  batch h sql _ := ⟨(script.batch h sql).1, (script.batch h sql).2, trivial, fun _ => rfl⟩
  close h _ := ⟨script.close h, fun _ => rfl⟩

namespace Embedded

/-! ### Databases in memory -/

/-- A call to a handle stays in memory: on every disk it goes the same way, and it leaves the
    disk alone, and the handle without a file. -/
def StaysInMemory {α : Type} (call : Disk → EngineState × α) : Prop :=
  ∃ h a, (∀ d, call d = ((d, h), a)) ∧ h.place = none

namespace EmbeddedHandle

variable {h : EmbeddedHandle}

/-- Without a file the store of a handle is its own memory, whatever is on the disk. -/
theorem store_of_place (hplace : h.place = none) (d : Disk) : h.store d = h.memory := by
  simp only [store, hplace]

/-- Without a file a change of the store stays with the handle, and the disk is as before. -/
theorem setStore_of_place (hplace : h.place = none) (d : Disk) (s : Store) :
    h.setStore d s = (d, { h with memory := s }) := by
  simp only [setStore, hplace]

/-- Looking gives the view of the transaction, or a view of the memory. -/
theorem look_of_place (hplace : h.place = none) :
    (∃ c, ∀ d, h.look d = .error c) ∨
    ∃ h' v, (∀ d, h.look d = .ok ((d, h'), v)) ∧ h'.place = none := by
  by_cases hactive : ∃ v, h.transaction = .active v
  · obtain ⟨v, hv⟩ := hactive
    exact .inr ⟨h, v, fun d => by simp only [look, hv], hplace⟩
  · -- outside of a transaction it is the memory that is looked at
    have hlook (d : Disk) : h.look d = (h.memory.look h.id).map fun p =>
        ((d, { h with transaction := .active p.2, memory := p.1 }), p.2) := by
      unfold look
      split
      · rename_i v hv
        exact absurd ⟨v, hv⟩ hactive
      · simp only [store_of_place hplace, setStore, hplace]
        cases h.memory.look h.id with
        | error c => rfl
        | ok p => rfl
    simp only [hlook]
    cases h.memory.look h.id with
    | error c => exact .inl ⟨c, fun _ => rfl⟩
    | ok p => exact .inr ⟨_, _, fun _ => rfl, hplace⟩

/-- Claiming a database in memory fails or succeeds on all disks alike, with the same view of
    it. -/
private theorem claim_of_place (hplace : h.place = none) :
    (∃ c, ∀ d, h.claim d = .error c) ∨
    ∃ h' v, (∀ d, h.claim d = .ok ((d, h'), v)) ∧ h'.place = none := by
  unfold claim
  split
  · exact .inl ⟨.readOnly, fun _ => rfl⟩
  · rcases look_of_place hplace with ⟨c, hlook⟩ | ⟨h', v, hlook, hplace'⟩
    · simp only [hlook]
      exact .inl ⟨c, fun _ => rfl⟩
    · simp only [hlook, bind, Except.bind, store_of_place hplace', setStore_of_place hplace']
      cases h'.memory.claim h'.id v with
      | error c => exact .inl ⟨c, fun _ => rfl⟩
      | ok s => exact .inr ⟨_, _, fun _ => rfl, hplace'⟩

/-- What is abandoned in memory is lost in memory; no disk hears of it. -/
theorem abandon_of_place (hplace : h.place = none) :
    ∃ h', (∀ d, h.abandon d = (d, h')) ∧ h'.place = none := by
  unfold abandon
  simp only [store_of_place hplace]
  exact ⟨_, fun d => setStore_of_place (by exact hplace) d _, hplace⟩

/-- A transaction in memory settles there, or is refused to, in the same way on every disk. -/
theorem settle_of_place (hplace : h.place = none) : StaysInMemory h.settle := by
  unfold settle
  simp only [store_of_place hplace]
  split
  · split
    · exact ⟨_, _, fun d => congrArg (·, _) (setStore_of_place (by exact hplace) d _), hplace⟩
    · exact ⟨_, _, fun d => congrArg (·, _) (setStore_of_place hplace d _), hplace⟩
  · exact ⟨_, _, fun _ => rfl, hplace⟩

/-! ### Preparing -/

/-- A text is prepared against tables in memory, or those that the handle knows, and no disk has a
    say in it. -/
theorem prepare_of_place (hplace : h.place = none) (text : List Char) :
    ∃ h' result, (∀ d, h.prepare d text = (h', result)) ∧ h'.place = none := by
  -- what the handle would see if it looked
  obtain ⟨current, hcurrent⟩ : ∃ current, ∀ d, ((h.look d).map fun r => r.2.content) = current := by
    rcases look_of_place hplace with ⟨c, hlook⟩ | ⟨h', v, hlook, _⟩
    · exact ⟨_, fun d => by rw [hlook]⟩
    · exact ⟨.ok v.content, fun d => by rw [hlook]; rfl⟩
  unfold prepare
  simp only [hcurrent]
  split
  · exact ⟨_, _, fun _ => rfl, hplace⟩
  · split
    · exact ⟨_, _, fun _ => rfl, hplace⟩
    · exact ⟨_, _, fun _ => rfl, hplace⟩
    · split
      · split
        · exact ⟨_, _, fun _ => rfl, hplace⟩
        · exact ⟨_, _, fun _ => rfl, hplace⟩
      · exact ⟨_, _, fun _ => rfl, hplace⟩

/-- So it is where more texts follow, which are prepared to make sure that they are blank. -/
private theorem prepareOnly_of_place (fuel : Nat) (hplace : h.place = none) (text : List Char) :
    ∃ h' result, (∀ d, prepareOnly d fuel h text = (h', result)) ∧ h'.place = none := by
  induction fuel generalizing h text with
  | zero => exact ⟨_, _, fun _ => rfl, hplace⟩
  | succ fuel ih =>
    obtain ⟨first, result, hprepare, hfirst⟩ := prepare_of_place hplace text
    simp only [prepareOnly, hprepare]
    rcases result with l | ⟨p, rest⟩
    · exact ⟨_, _, fun _ => rfl, hfirst⟩
    · cases rest with
      | nil => exact ⟨_, _, fun _ => rfl, hfirst⟩
      | cons c rest =>
        -- what follows is prepared by the handle as it is after the first text
        obtain ⟨last, result, hrest, hlast⟩ := ih hfirst (c :: rest)
        simp only [hrest]
        rcases result with e | none | q
        · exact ⟨_, _, fun _ => rfl, hlast⟩
        · exact ⟨_, _, fun _ => rfl, hlast⟩
        · exact ⟨_, _, fun _ => rfl, hlast⟩

/-! ### Running -/

/-- What stays in memory does so in a transaction of its own too, settled or abandoned as it may
    be. -/
theorem inTransaction_of_place {f : EngineState → EngineState × Except Complaint Effect}
    (hf : StaysInMemory fun d => f (d, h)) : StaysInMemory (h.inTransaction · f) := by
  obtain ⟨after, result, hcall, hafter⟩ := hf
  unfold inTransaction
  simp only [hcall]
  cases h.transaction with
  | begun => exact ⟨_, _, fun _ => rfl, hafter⟩
  | active v => exact ⟨_, _, fun _ => rfl, hafter⟩
  | idle =>
    cases result with
    | error c =>
      obtain ⟨left, habandon, hleft⟩ := abandon_of_place hafter
      simp only [habandon]
      exact ⟨_, _, fun _ => rfl, hleft⟩
    | ok effect =>
      obtain ⟨left, settled, hsettle, hleft⟩ := settle_of_place hafter
      simp only [hsettle]
      cases settled with
      | true => exact ⟨_, _, fun _ => rfl, hleft⟩
      | false =>
        -- what did not settle is abandoned, with the counts from before
        have hcounts : { left with changes := h.changes, totalChanges := h.totalChanges }.place =
            none := hleft
        obtain ⟨last, habandon, hlast⟩ := abandon_of_place hcounts
        simp only [habandon]
        exact ⟨_, _, fun _ => rfl, hlast⟩

/-- A query looks at the tables in memory and nowhere else. -/
private theorem query_of_place (hplace : h.place = none) (p : Prepared) (params : List Datum) :
    StaysInMemory fun d => query p params (d, h) := by
  unfold query
  rcases look_of_place hplace with ⟨c, hlook⟩ | ⟨h', v, hlook, hplace'⟩
  · simp only [hlook]
    exact ⟨_, _, fun _ => rfl, hplace⟩
  · simp only [hlook]
    exact ⟨_, _, fun _ => rfl, hplace'⟩

/-- Recording work says nothing of where the database of the handle is. -/
private theorem record_place (h : EmbeddedHandle) (v : View) (w : Work) :
    (h.record v w).1.place = h.place := by
  unfold record
  split
  · rfl
  · split
    · rfl
    · rfl

/-- A change is written in memory, and whether there can be a journal is up to the memory too. -/
private theorem change_of_place (hplace : h.place = none) (p : Prepared) (params : List Datum) :
    StaysInMemory fun d => change p params (d, h) := by
  unfold change
  rcases claim_of_place hplace with ⟨c, hclaim⟩ | ⟨h', v, hclaim, hplace'⟩
  · simp only [hclaim]
    exact ⟨_, _, fun _ => rfl, hplace⟩
  · simp only [hclaim]
    have hknown : { h' with known := some v.content }.place = none := hplace'
    split
    · exact ⟨_, _, fun _ => rfl, hknown⟩
    · rename_i plan _
      simp only [store_of_place hknown]
      split
      · exact ⟨_, _, fun _ => rfl, hknown⟩
      · exact ⟨_, _, fun _ => rfl, (record_place _ _ _).trans hknown⟩

/-- Whatever is run, be it about rows, about tables or about the transaction itself, stays in
    memory. -/
theorem run_of_place (hplace : h.place = none) (p : Prepared) (params : List Datum) :
    StaysInMemory (h.run · p params) := by
  -- what begins or ends a transaction, for every state of the handle, and then what is run in one
  unfold run
  split
  · exact ⟨_, _, fun _ => rfl, hplace⟩
  · exact ⟨_, _, fun _ => rfl, hplace⟩
  · exact ⟨_, _, fun _ => rfl, hplace⟩
  · obtain ⟨left, settled, hsettle, hleft⟩ := settle_of_place hplace
    simp only [hsettle]
    cases settled with
    | true => exact ⟨_, _, fun _ => rfl, hleft⟩
    | false => exact ⟨_, _, fun _ => rfl, hleft⟩
  · exact ⟨_, _, fun _ => rfl, hplace⟩
  · obtain ⟨left, habandon, hleft⟩ := abandon_of_place hplace
    simp only [habandon]
    exact ⟨_, _, fun _ => rfl, hleft⟩
  · split
    · exact inTransaction_of_place (query_of_place hplace p params)
    · split
      · exact ⟨_, _, fun _ => rfl, hplace⟩
      · exact ⟨_, _, fun _ => rfl, hplace⟩
  · exact inTransaction_of_place (change_of_place hplace p params)

/-! ### Calls -/

/-- The call that prepares a text stays in memory, as preparing does. -/
theorem prepareText_of_place (hplace : h.place = none) (sql : String) :
    StaysInMemory fun d => prepareText (d, h) sql := by
  obtain ⟨after, result, hprepare, hafter⟩ :=
    prepareOnly_of_place (sql.toList.length + 1) hplace sql.toList
  exact ⟨after, result, fun d => by simp only [prepareText, hprepare], hafter⟩

/-- The call that runs what was prepared stays in memory, also if the parameters are too few or
    too many. -/
theorem runWith_of_place (hplace : h.place = none) (p : Option Prepared) (params : List Value) :
    StaysInMemory fun d => runWith (d, h) p params := by
  unfold runWith
  split
  · exact ⟨_, _, fun _ => rfl, hplace⟩
  · exact ⟨_, _, fun _ => rfl, hplace⟩
  · rename_i p _
    obtain ⟨after, result, hrun, hafter⟩ := run_of_place hplace p (params.map Datum.ofParameter)
    simp only [hrun]
    exact ⟨_, _, fun _ => rfl, hafter⟩

/-- The counts that a call compares are in the handle, so it stays in memory with them. -/
theorem libraryRun_of_place (hplace : h.place = none) (p : Option Prepared)
    (params : List Value) : StaysInMemory fun d => library.run (d, h) p params := by
  obtain ⟨after, result, hrun, hafter⟩ := runWith_of_place hplace p params
  simp only [Library.run, library, execute, rows, hrun]
  split
  · cases result with
    | error message => exact ⟨_, _, fun _ => rfl, hafter⟩
    | ok effect =>
      let affected := if after.totalChanges = h.totalChanges then 0 else after.changes
      exact ⟨after, .done (.affected affected), fun _ => rfl, hafter⟩
  · cases result with
    | error message => exact ⟨_, _, fun _ => rfl, hafter⟩
    | ok effect => exact ⟨_, _, fun _ => rfl, hafter⟩

/-- **A text that is submitted** to a database in memory is answered in the same way on every
    disk. -/
theorem submit_of_place (hplace : h.place = none) (sql : String) (params : List Value) :
    StaysInMemory fun d => library.submit (d, h) sql params := by
  unfold Library.submit
  split
  · exact ⟨_, _, fun _ => rfl, hplace⟩
  · obtain ⟨prepared, result, hprepare, hprepared⟩ := prepareText_of_place hplace sql
    simp only [show library.prepare = prepareText from rfl, hprepare]
    cases result with
    | error message => exact ⟨_, _, fun _ => rfl, hprepared⟩
    | ok p => exact libraryRun_of_place hprepared p params

/-- A statement of a batch stays in memory as a statement by itself does. -/
theorem step_of_place (hplace : h.place = none) (p : Prepared) : StaysInMemory (h.step · p) := by
  obtain ⟨after, result, hrun, hafter⟩ := run_of_place hplace p []
  unfold step
  simp only [hrun]
  rcases result with c | (_ | ⟨c | row, rest⟩) | _
  · exact ⟨_, _, fun _ => rfl, hafter⟩
  · exact ⟨_, _, fun _ => rfl, hafter⟩
  · exact ⟨_, _, fun _ => rfl, hafter⟩
  · exact ⟨_, _, fun _ => rfl, hafter⟩
  · exact ⟨_, _, fun _ => rfl, hafter⟩

/-- A batch stays in memory statement by statement, up to the first that fails. -/
theorem batchFrom_of_place (fuel : Nat) (hplace : h.place = none) (text : List Char) :
    StaysInMemory fun d => batchFrom fuel (d, h) text := by
  induction fuel generalizing h text with
  | zero => exact ⟨_, _, fun _ => rfl, hplace⟩
  | succ fuel ih =>
    obtain ⟨prepared, result, hprepare, hprepared⟩ := prepare_of_place hplace text
    unfold StaysInMemory
    simp only [batchFrom, hprepare]
    rcases result with l | ⟨_ | p, rest⟩
    · exact ⟨_, _, fun _ => rfl, hprepared⟩
    · exact ⟨_, _, fun _ => rfl, hprepared⟩
    · obtain ⟨after, result, hstep, hafter⟩ := step_of_place hprepared p
      simp only [hstep]
      cases result with
      | error c => exact ⟨_, _, fun _ => rfl, hafter⟩
      | ok _ =>
        by_cases hrest : rest = []
        · simp only [hrest, if_pos]
          exact ⟨_, _, fun _ => rfl, hafter⟩
        · simp only [if_neg hrest]
          exact ih hafter rest

/-- **A batch that is submitted** to a database in memory is answered in the same way on every
    disk. -/
theorem submitBatch_of_place (hplace : h.place = none) (sql : String) :
    StaysInMemory fun d => library.submitBatch (d, h) sql := by
  obtain ⟨after, result, hbatch, hafter⟩ :=
    batchFrom_of_place (sql.toList.length + 1) hplace sql.toList
  simp only [Library.submitBatch, show library.batch = batch from rfl, batch, hbatch]
  cases result with
  | error message => exact ⟨_, _, fun _ => rfl, hafter⟩
  | ok _ => exact ⟨_, _, fun _ => rfl, hafter⟩

end EmbeddedHandle

/-- Options without a path open a database in memory, so their handles share nothing. -/
theorem place_of_openHandle {d : Disk} {id : Nat} {o : Options} {h : EmbeddedHandle}
    (hpath : o.dbPath = none) (hopen : (openHandle d id o).2 = .done h) : h.place = none := by
  have hplace : findPlace d o = .ok (none, d) := by simp only [findPlace, hpath]
  unfold openHandle at hopen
  simp only [hplace, Option.isSome_none, Bool.and_false] at hopen
  split at hopen
  · exact absurd hopen (by simp)
  · split at hopen
    · exact absurd hopen (by simp)
    · obtain rfl : newHandle id none o.readOnly = h := by simpa using hopen
      rfl

/-- Handles of databases in memory share nothing: they answer and change as if there were no
    disk. -/
theorem engine_detached : Embedded.engine.Detached fun h => h.place = none where
  submit h sql params hplace := by
    obtain ⟨after, outcome, hcall, hafter⟩ := EmbeddedHandle.submit_of_place hplace sql params
    exact ⟨after, outcome, hafter, fun d => by simp only [engine, hcall]⟩
  batch h sql hplace := by
    obtain ⟨after, outcome, hcall, hafter⟩ := EmbeddedHandle.submitBatch_of_place hplace sql
    exact ⟨after, outcome, hafter, fun d => by simp only [engine, hcall]⟩
  close h _ := ⟨.ok (), fun _ => rfl⟩

end Embedded

end SqlClient
