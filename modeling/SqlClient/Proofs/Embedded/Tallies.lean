import SqlClient.Embedded.Engine
import SqlClient.Proofs.Embedded.Counting
import SqlClient.Proofs.Embedded.Library

namespace SqlClient.Embedded

/-!
# Counts of a handle

A handle keeps the count of the last statement about rows, whatever is run after it, and the
sum of all such counts.  A statement that goes well leaves its own count, if it is about rows,
and one that fails leaves none.

* `EmbeddedHandle.Tallied` — what statements with these counts leave of the counts of a handle.
* `EmbeddedHandle.Tallied.ofLibrary` — the same of the counters of the library.
* `EmbeddedHandle.run_tallied` — what a prepared statement leaves.
-/

namespace EmbeddedHandle

variable {d d' : Disk} {h h' h'' : EmbeddedHandle}

/-! ### What a handle has counted -/

/-- The database as a handle sees it, or would see it. -/
def content (d : Disk) (h : EmbeddedHandle) : Database :=
  match h.transaction with
  | .active v => v.content
  | _ => (h.store d).content

/-- Between two states of a handle, statements about rows have changed these numbers of rows:
    the handle keeps the last of them, and has added all of them up. -/
structure Tallied (counts : List Nat) (h h' : EmbeddedHandle) : Prop where
  changes : h'.changes = counts.getLast?.getD h.changes
  totalChanges : h'.totalChanges = h.totalChanges + counts.sum

/-- Where nothing is run, nothing is counted. -/
theorem Tallied.refl (h : EmbeddedHandle) : Tallied [] h h := ⟨rfl, rfl⟩

/-- What is counted one after the other adds up, and the later count is the one that is kept. -/
theorem Tallied.trans {counts more : List Nat} (hfirst : Tallied counts h h')
    (hthen : Tallied more h' h'') : Tallied (counts ++ more) h h'' where
  changes := by
    rw [hthen.changes, hfirst.changes, List.getLast?_append]
    cases more.getLast? <;> rfl
  totalChanges := by
    rw [hthen.totalChanges, hfirst.totalChanges, List.sum_append, Nat.add_assoc]

/-- So the counters of the library are told, each statement having changed rows by itself. -/
theorem Tallied.ofLibrary {counts : List Nat} (ht : Tallied counts h h') (d d' : Disk) :
    library.Tallied (counts.map (⟨·, 0⟩)) (d, h) (d', h') where
  changes := by
    rw [List.getLast?_map, Option.map_map]
    exact ht.changes.trans (by cases counts.getLast? <;> rfl)
  totalChanges := by
    rw [List.map_map]
    exact ht.totalChanges.trans (by simp [library, Function.comp_def])

/-- The counts of what goes well stand, and what fails has none. -/
def standing {α ε Count : Type} (counts : List Count) : Except ε α → List Count
  | .ok _ => counts
  | .error _ => []

/-! ### Looking and writing -/

/-- The counts are the handle's own, and no part of the store that it writes. -/
theorem Tallied.setStore {counts : List Nat} (ht : Tallied counts h h') (d : Disk) (s : Store) :
    Tallied counts h (h'.setStore d s).2 := by
  unfold EmbeddedHandle.setStore
  split
  · exact ⟨ht.changes, ht.totalChanges⟩
  · exact ht

/-- In a transaction that has looked at the database, the handle sees its view of it. -/
private theorem content_of_active {v : View} (hactive : h.transaction = .active v) (d : Disk) :
    h.content d = v.content := by
  rw [content, hactive]

/-- Before it looks, what it would see is the database in the store. -/
private theorem content_of_not_active (hactive : ∀ v, h.transaction ≠ .active v) (d : Disk) :
    h.content d = (h.store d).content := by
  unfold content
  split
  · rename_i v hv
    exact absurd hv (hactive v)
  · rfl

/-- Looking counts nothing, and shows what the handle sees. -/
theorem look_eq_ok {v : View} (hlook : h.look d = .ok ((d', h'), v)) :
    Tallied [] h h' ∧ v.content = h.content d := by
  unfold look at hlook
  split at hlook
  · rename_i active hactive
    simp only [Except.ok.injEq, Prod.mk.injEq] at hlook
    obtain ⟨⟨-, rfl⟩, rfl⟩ := hlook
    exact ⟨.refl h, (content_of_active hactive d).symm⟩
  · rename_i hactive
    obtain ⟨⟨s, w⟩, hs, hlook⟩ := exists_of_bind_eq_ok hlook
    simp only [Except.ok.injEq, Prod.mk.injEq] at hlook
    obtain ⟨hstate, rfl⟩ := hlook
    have hcontent : w.content = (h.store d).content := by
      unfold Store.look at hs
      split at hs
      · exact absurd hs nofun
      · rw [← (Prod.mk.inj (Except.ok.inj hs)).2]
    have hbegun : Tallied [] h { h with transaction := .active w } := ⟨rfl, rfl⟩
    have hset := hbegun.setStore d s
    rw [hstate] at hset
    exact ⟨hset, hcontent.trans (content_of_not_active hactive d).symm⟩

/-- Claiming the database to write counts nothing, and shows what the handle sees. -/
theorem claim_eq_ok {v : View} (hclaim : h.claim d = .ok ((d', h'), v)) :
    Tallied [] h h' ∧ v.content = h.content d := by
  unfold claim at hclaim
  split at hclaim
  · exact absurd hclaim nofun
  · obtain ⟨⟨⟨d₁, h₁⟩, w⟩, hlook, hclaim⟩ := exists_of_bind_eq_ok hclaim
    obtain ⟨s, -, hclaim⟩ := exists_of_bind_eq_ok hclaim
    simp only [Except.ok.injEq, Prod.mk.injEq] at hclaim
    obtain ⟨hstate, rfl⟩ := hclaim
    obtain ⟨hlooked, hcontent⟩ := look_eq_ok hlook
    have hset := hlooked.setStore d₁ s
    rw [hstate] at hset
    exact ⟨hset, hcontent⟩

/-- Ending a transaction for nothing takes back what was written, but no count of it. -/
theorem abandon_tallied (d : Disk) (h : EmbeddedHandle) : Tallied [] h (h.abandon d).2 := by
  unfold abandon
  exact Tallied.setStore ⟨rfl, rfl⟩ d _

/-- Settling a transaction counts nothing more; what was written in it was counted then. -/
theorem settle_tallied (d : Disk) (h : EmbeddedHandle) : Tallied [] h (h.settle d).1.2 := by
  unfold settle
  split
  · refine Tallied.setStore ?_ d _
    split
    · exact ⟨rfl, rfl⟩
    · exact .refl h
  · exact ⟨rfl, rfl⟩

/-! ### Statements at work -/

/-- A change that goes well counts what the work has counted. -/
theorem record_tallied (h : EmbeddedHandle) (v : View) (w : Work) :
    Tallied (standing w.count.toList (h.record v w).2) h (h.record v w).1 := by
  unfold record
  cases w.fault with
  | some c => exact ⟨rfl, rfl⟩
  | none =>
    cases w.count with
    | none => exact ⟨rfl, rfl⟩
    | some n => exact ⟨rfl, by simp [standing]⟩

/-- Work that is recorded as going well has met no fault. -/
private theorem fault_of_record_eq_ok {v : View} {w : Work} {effect : Effect}
    (h : (EmbeddedHandle.record h v w).2 = .ok effect) : w.fault = none := by
  unfold record at h
  cases hfault : w.fault with
  | some c => exact absurd h (by simp [hfault])
  | none => rfl

/-- A change leaves the count of its statement, if it goes well. -/
theorem change_tallied (p : Prepared) (params : List Datum) (d : Disk) (h : EmbeddedHandle) :
    Tallied (standing (p.count? params (h.content d)).toList (change p params (d, h)).2) h
      (change p params (d, h)).1.2 := by
  simp only [change]
  cases hclaim : h.claim d with
  | error c => exact .refl h
  | ok r =>
    obtain ⟨⟨d₁, h₁⟩, v⟩ := r
    obtain ⟨hclaimed, hcontent⟩ := claim_eq_ok hclaim
    -- looking at the tables counts nothing
    have hknown : Tallied [] h { h₁ with known := some v.content } :=
      ⟨hclaimed.changes, hclaimed.totalChanges⟩
    rw [← hcontent]
    dsimp only
    cases hplan : p.plan v.content with
    | error l => exact hknown
    | ok plan =>
      dsimp only
      split
      · exact hknown
      · have hrecord := record_tallied { h₁ with known := some v.content } v
          (plan.work v.content params)
        have hboth := hknown.trans hrecord
        cases hresult : (record { h₁ with known := some v.content } v
            (plan.work v.content params)).2 with
        | error c =>
          rw [hresult] at hboth
          exact hboth
        | ok effect =>
          rw [hresult] at hboth
          -- the work went well, so what it has changed is what the plan asks for
          rw [Prepared.count?_of_plan hplan, ← Plan.count_work (fault_of_record_eq_ok hresult)]
          exact hboth

/-- A query counts nothing, so the count of the last change is still there after it. -/
theorem query_tallied (p : Prepared) (params : List Datum) (d : Disk) (h : EmbeddedHandle) :
    Tallied [] h (query p params (d, h)).1.2 := by
  simp only [query]
  cases hlook : h.look d with
  | error c => exact .refl h
  | ok r =>
    obtain ⟨⟨d₁, h₁⟩, v⟩ := r
    obtain ⟨hlooked, -⟩ := look_eq_ok hlook
    exact ⟨hlooked.changes, hlooked.totalChanges⟩

/-- A transaction of its own leaves what is run in it its count; but what cannot be settled
    comes to nothing, and its count with it. -/
theorem inTransaction_tallied {counts : List Nat}
    {f : EngineState → EngineState × Except Complaint Effect}
    (hf : Tallied (standing counts (f (d, h)).2) h (f (d, h)).1.2) :
    Tallied (standing counts (h.inTransaction d f).2) h (h.inTransaction d f).1.2 := by
  unfold inTransaction
  generalize f (d, h) = r at hf ⊢
  obtain ⟨⟨d₁, h₁⟩, result⟩ := r
  cases h.transaction with
  | idle =>
    cases result with
    | error c =>
      -- nothing stands of what failed
      exact hf.trans (abandon_tallied d₁ h₁)
    | ok effect =>
      have hsettled := settle_tallied d₁ h₁
      dsimp only
      generalize h₁.settle d₁ = r at hsettled ⊢
      obtain ⟨⟨d₂, h₂⟩, settled⟩ := r
      cases settled with
      | true =>
        have hboth := hf.trans hsettled
        rw [List.append_nil] at hboth
        exact hboth
      | false =>
        -- the counts are those from before the transaction
        have hrestored : Tallied [] h
            { h₂ with changes := h.changes, totalChanges := h.totalChanges } := ⟨rfl, rfl⟩
        exact hrestored.trans (abandon_tallied d₂ _)
  | begun => exact hf
  | active v => exact hf

/-- Where there are no counts, none stand. -/
theorem standing_nil {α : Type} (result : Except Complaint α) :
    standing ([] : List Nat) result = [] := by
  cases result <;> rfl

/-- **A statement leaves its own count**, if it goes well, and else none; only a statement
    about rows has one. -/
theorem run_tallied (p : Prepared) (params : List Datum) (d : Disk) (h : EmbeddedHandle) :
    Tallied (standing (p.count? params (h.content d)).toList (h.run d p params).2) h
      (h.run d p params).1.2 := by
  -- where the statement is not about rows, it is enough that nothing is counted
  have hnothing (hrows : p.statement.changesRows = false)
      (hsame : Tallied [] h (h.run d p params).1.2) :
      Tallied (standing (p.count? params (h.content d)).toList (h.run d p params).2) h
        (h.run d p params).1.2 := by
    rw [Prepared.count?_eq_none hrows, Option.toList_none, standing_nil]
    exact hsame
  have hchange := inTransaction_tallied (change_tallied p params d h)
  cases hs : p.statement with
  | select first others order =>
    refine hnothing (by rw [hs]; rfl) ?_
    simp only [run, hs]
    split
    · have hquery : Tallied (standing [] (query p params (d, h)).2) h
          (query p params (d, h)).1.2 := by
        rw [standing_nil]
        exact query_tallied p params d h
      have hdone := inTransaction_tallied hquery
      rw [standing_nil] at hdone
      exact hdone
    · split
      · exact .refl h
      · exact .refl h
  | begin =>
    refine hnothing (by rw [hs]; rfl) ?_
    simp only [run, hs]
    cases h.transaction with
    | idle => exact ⟨rfl, rfl⟩
    | begun => exact .refl h
    | active v => exact .refl h
  | commit =>
    refine hnothing (by rw [hs]; rfl) ?_
    have hsettled := settle_tallied d h
    simp only [run, hs]
    generalize h.settle d = r at hsettled ⊢
    obtain ⟨state, settled⟩ := r
    cases h.transaction with
    | idle => exact .refl h
    | begun => cases settled <;> exact hsettled
    | active v => cases settled <;> exact hsettled
  | rollback =>
    refine hnothing (by rw [hs]; rfl) ?_
    simp only [run, hs]
    cases h.transaction with
    | idle => exact .refl h
    | begun => exact abandon_tallied d h
    | active v => exact abandon_tallied d h
  | _ =>
    simp only [run, hs]
    exact hchange

end EmbeddedHandle

end SqlClient.Embedded
