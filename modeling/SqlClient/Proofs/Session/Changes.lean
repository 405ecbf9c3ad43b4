import SqlClient.Proofs.Session.References

namespace SqlClient

/-!
# Changes of a session

The operations a step is made of, with what they may rely on: a connection is bound to a
name or used in a scope only while something refers to it.  Steps of every kind, with the
programs inside them, are chains of such changes.

* `Step.isQuiet` — the steps that ask nobody to close a connection.
* `Session.QuietChange`, `Session.Change` — one change, quiet or not.
* `Session.perform_changes`, …, `Session.finish_changes` — the steps as chains of changes.
* `Session.Change.moves` — what a change does to the engine.
* `Session.perform_held` — scopes are left in the order they were entered in.
-/

/-- A step that asks nobody to close a connection; it may still let go of one. -/
def Step.isQuiet : Step → Bool
  | .close _ => false
  | .scope _ _ _ => false
  | .within _ _ _ _ => false
  | .cancelled _ _ => false
  | .shutdown _ => false
  | _ => true

namespace Session

variable {World Handle : Type} (engine : Engine World Handle)

/-- A change that closes a connection only by letting go of it. -/
inductive QuietChange : Session World Handle → Session World Handle → Prop where
  /-- a connection is opened and named, if the engine opens a handle -/
  | connect (s : Session World Handle) (name : String) (options : Options) :
      QuietChange s (bindResult engine name (s.connect engine .owned options)).1
  | bind (s : Session World Handle) (name : String) (c : Nat) (h : s.isReferenced c = true) :
      QuietChange s (s.bind engine name c)
  | unbind (s : Session World Handle) (name : String) : QuietChange s (s.unbind engine name)
  | execute (s : Session World Handle) (c : Nat) (statement : String) (params : List Value) :
      QuietChange s (s.execute engine c statement params).1
  | batch (s : Session World Handle) (c : Nat) (sql : String) :
      QuietChange s (s.executeBatch engine c sql).1
  | acquire (s : Session World Handle) (r : RegistryName) :
      QuietChange s (s.acquire engine r).1
  | tell (s : Session World Handle) : QuietChange s s.tell.1

/-- A chain of quiet changes. -/
abbrev QuietChanges : Session World Handle → Session World Handle → Prop :=
  Relation.ReflTransGen (QuietChange engine)

/-- One change of a session. -/
inductive Change : Session World Handle → Session World Handle → Prop where
  | quiet (s t : Session World Handle) (h : QuietChange engine s t) : Change s t
  | hold (s : Session World Handle) (c : Nat) (h : s.isReferenced c = true) : Change s (s.hold c)
  | unhold (s : Session World Handle) : Change s (s.unhold engine)
  | close (s : Session World Handle) (c : Nat) : Change s (s.close engine c).1
  | shutdown (s : Session World Handle) (r : RegistryName) : Change s (s.shutdown engine r).1

/-- A chain of changes. -/
abbrev Changes : Session World Handle → Session World Handle → Prop :=
  Relation.ReflTransGen (Change engine)

variable {engine} in
/-- Changes that leave scopes alone are changes. -/
theorem QuietChanges.changes {s t : Session World Handle} (h : QuietChanges engine s t) :
    Changes engine s t :=
  Relation.ReflTransGen.mono Change.quiet s t h

/-! ### Quiet steps -/

/-- A step by name changes what it changes for the connection of the name, and nothing if there is
    none. -/
theorem onNamed_quietChanges {name : String} {s : Session World Handle}
    {f : Nat → Session World Handle × Answer}
    (h : ∀ c, s.named? name = some c → QuietChanges engine s (f c).1) :
    QuietChanges engine s (s.onNamed name f).1 := by
  unfold onNamed
  cases hname : s.named? name with
  | none => exact .refl
  | some c => exact h c hname

/-- Making an answer of a result leaves the session alone. -/
theorem rowsResult_fst (r : Session World Handle × Except Error ResultSet) :
    (rowsResult r).1 = r.1 := by
  obtain ⟨s, e | rows⟩ := r <;> rfl

/-- A connection that a registry has handed out is the one that it keeps. -/
private theorem slot_acquire {r : RegistryName} {s t : Session World Handle} {c : Nat}
    (h : s.acquire engine r = (t, .ok c)) : (t.registry r).slot = some c := by
  rcases acquire_cases engine r s with ⟨d, hslot, heq⟩ | ⟨u, d, _, _, heq⟩ | ⟨u, e, _, _, heq⟩
  · rw [heq] at h
    cases h
    exact hslot
  · rw [heq] at h
    cases h
    exact slot_setSlot_self r (some c) u
  · rw [heq] at h
    exact absurd (Prod.mk.inj h).2 (by simp)

/-- Handing the connection of a registry out under a name is two changes, in a registry and in the
    names. -/
private theorem bindResult_acquire_quietChanges (name : String) (r : RegistryName)
    (s : Session World Handle) :
    QuietChanges engine s (bindResult engine name (s.acquire engine r)).1 := by
  have hacquire : QuietChange engine s (s.acquire engine r).1 := .acquire s r
  rcases h : s.acquire engine r with ⟨t, e | c⟩
  · rw [h] at hacquire
    exact .single hacquire
  · rw [h] at hacquire
    have hc : t.isReferenced c = true := isReferenced_of_slot (slot_acquire engine h)
    exact .head hacquire (.single (.bind t name c hc))

/-- A registry that is asked many times changes as if it were asked once and again. -/
private theorem acquireMany_quietChanges (r : RegistryName) (count : Nat)
    (s : Session World Handle) :
    QuietChanges engine s (s.acquireMany engine r count).1 := by
  induction count generalizing s with
  | zero => exact .refl
  | succ count ih => exact .head (.acquire s r) (ih _)

/-- A statement on the connection of a registry is one request for it and one call to its
    handle. -/
theorem executeShared_quietChanges (statement : String) (params : List Value)
    (s : Session World Handle) :
    QuietChanges engine s (s.executeShared engine statement params).1 := by
  have hacquire : QuietChange engine s (s.acquire engine .process).1 := .acquire s .process
  unfold executeShared
  rcases h : s.acquire engine .process with ⟨t, e | c⟩
  · rw [h] at hacquire
    exact .single hacquire
  · rw [h] at hacquire
    exact .head hacquire (.single (.execute t c statement params))

/-- A step without scopes is a chain of changes that leave the scopes alone. -/
theorem perform_quietChanges {step : Step} (hstep : step.isQuiet = true)
    (s : Session World Handle) : QuietChanges engine s (s.perform engine step).1 := by
  cases step with
  | connect name options => exact .single (.connect s name options)
  | clone source name =>
    exact onNamed_quietChanges engine fun c hc =>
      .single (.bind s name c (isReferenced_of_named? hc))
  | drop name => exact onNamed_quietChanges engine fun _ _ => .single (.unbind s name)
  | execute target statement params =>
    cases target with
    | none =>
      simp only [perform, rowsResult_fst]
      exact executeShared_quietChanges engine statement params s
    | some name =>
      refine onNamed_quietChanges engine fun c _ => ?_
      rw [rowsResult_fst]
      exact .single (.execute s c statement params)
  | batch name sql => exact onNamed_quietChanges engine fun c _ => .single (.batch s c sql)
  | acquire r name => exact bindResult_acquire_quietChanges engine name r s
  | acquireMany count => exact acquireMany_quietChanges engine .session count s
  | sameHandle first second =>
    exact onNamed_quietChanges engine fun _ _ => onNamed_quietChanges engine fun _ _ => .refl
  | close name => exact absurd hstep (by simp [Step.isQuiet])
  | scope name steps leave => exact absurd hstep (by simp [Step.isQuiet])
  | within name nickname steps result => exact absurd hstep (by simp [Step.isQuiet])
  | cancelled name polled => exact absurd hstep (by simp [Step.isQuiet])
  | shutdown r => exact absurd hstep (by simp [Step.isQuiet])
  | isInitialized => exact .refl
  | describeRegistry => exact .refl
  | unknown => exact .refl
  | _ => exact onNamed_quietChanges engine fun _ _ => .refl

/-! ### Steps of every kind -/

/-- Closing a connection a second time does nothing, whoever owns it. -/
theorem close_close (c : Nat) (s : Session World Handle) :
    (s.close engine c).1.close engine c = ((s.close engine c).1, .ok ()) := by
  cases hshared : s.isShared c with
  | true => simp [close, hshared]
  | false =>
    have hclose : s.close engine c = s.release engine c := by simp [close, hshared]
    rw [hclose]
    -- the first time has taken the handle away
    have hnone : (s.release engine c).1.handle? c = none := by
      rcases release_cases engine c s with ⟨hc, heq⟩ | ⟨_, _, _, _, _, heq⟩
      · rw [heq]
        exact hc
      · rw [heq]
        exact handle?_setHandle_none c s
    have hkept : (s.release engine c).1.isShared c = false := by
      rw [isShared_release, hshared]
    generalize (s.release engine c).1 = t at hnone hkept
    simp [close, hkept, release, hnone]

/-- The guard that goes behind `exit` finds the connection closed. -/
theorem exitScope_eq (c : Nat) (s : Session World Handle) :
    s.exitScope engine c = s.close engine c := by
  have hagain := close_close engine c s
  unfold exitScope dropGuard
  rcases hclose : s.close engine c with ⟨t, result⟩
  rw [hclose] at hagain
  simp only [hagain]

/-- However a scope is left, its connection is closed. -/
theorem leaveScope_fst (c : Nat) (leave : Leave) (s : Session World Handle) :
    (s.leaveScope engine c leave).1 = (s.close engine c).1 := by
  cases leave with
  | exit =>
    rw [leaveScope, exitScope_eq]
    rcases s.close engine c with ⟨t, e | u⟩ <;> rfl
  | drop => rfl
  | panic => rfl

/-- The state after a scope: it is entered, its steps are done, the connection is closed,
    and it is left. -/
theorem perform_scope_fst {name : String} {c : Nat} {s : Session World Handle}
    (h : s.named? name = some c) (steps : List Step) (leave : Leave) :
    (s.perform engine (.scope name steps leave)).1 =
      (((s.hold c).runAll engine steps).1.close engine c).1.unhold engine := by
  simp only [perform, h, leaveScope_fst]

/-- A call with a scope of its own leaves the session as its steps do, after closing and letting
    go. -/
theorem perform_within_fst {name nickname : String} {c : Nat} {s : Session World Handle}
    (h : s.named? name = some c) (steps : List Step) (result : Option Error) :
    (s.perform engine (.within name nickname steps result)).1 =
      ((((s.hold c).bind engine nickname c).runUntilError engine steps).1.close engine c).1.unhold
        engine := by
  simp only [perform, h, exitScope_eq]

/-- The step that closes a connection by hand does nothing else. -/
theorem perform_close_fst {name : String} {c : Nat} {s : Session World Handle}
    (h : s.named? name = some c) :
    (s.perform engine (.close name)).1 = (s.close engine c).1 := by
  simp only [perform, onNamed, h]

/-- A call that is cancelled closes its connection if it was polled, and else nothing has
    begun. -/
theorem perform_cancelled_fst {name : String} {c : Nat} {s : Session World Handle}
    (h : s.named? name = some c) (polled : Bool) :
    (s.perform engine (.cancelled name polled)).1 =
      if polled then (s.close engine c).1 else s := by
  simp only [perform, onNamed, h, cancel, dropGuard]

/-- Steps on a name that stands for nothing change nothing. -/
theorem perform_fst_of_named?_eq_none {name : String} {s : Session World Handle}
    (h : s.named? name = none) :
    (s.perform engine (.close name)).1 = s ∧
    (∀ polled, (s.perform engine (.cancelled name polled)).1 = s) ∧
    (∀ steps leave, (s.perform engine (.scope name steps leave)).1 = s) ∧
    ∀ nickname steps result, (s.perform engine (.within name nickname steps result)).1 = s := by
  simp [perform, onNamed, h]

/-- A connection in use may be given another name while its scope lasts. -/
theorem bind_hold_quietChange (name : String) (c : Nat) (s : Session World Handle) :
    QuietChange engine (s.hold c) ((s.hold c).bind engine name c) :=
  .bind (s.hold c) name c (isReferenced_hold c s)

mutual

/-- A step is a chain of changes, those of the steps inside its scopes among them. -/
theorem perform_changes (step : Step) (s : Session World Handle) :
    Changes engine s (s.perform engine step).1 := by
  cases step with
  | close name =>
    cases hname : s.named? name with
    | none => rw [(perform_fst_of_named?_eq_none engine hname).1]
    | some c =>
      rw [perform_close_fst engine hname]
      exact .single (.close s c)
  | scope name steps leave =>
    cases hname : s.named? name with
    | none => rw [(perform_fst_of_named?_eq_none engine hname).2.2.1]
    | some c =>
      rw [perform_scope_fst engine hname]
      -- entering, the steps inside, and leaving, which closes and lets go
      exact .head (.hold s c (isReferenced_of_named? hname))
        ((runAll_changes steps (s.hold c)).trans (.head (.close _ c) (.single (.unhold _))))
  | within name nickname steps result =>
    cases hname : s.named? name with
    | none => rw [(perform_fst_of_named?_eq_none engine hname).2.2.2]
    | some c =>
      rw [perform_within_fst engine hname]
      have hbind : Change engine (s.hold c) ((s.hold c).bind engine nickname c) :=
        .quiet _ _ (bind_hold_quietChange engine nickname c s)
      exact .head (.hold s c (isReferenced_of_named? hname)) (.head hbind
        ((runUntilError_changes steps _).trans (.head (.close _ c) (.single (.unhold _)))))
  | cancelled name polled =>
    cases hname : s.named? name with
    | none => rw [(perform_fst_of_named?_eq_none engine hname).2.1]
    | some c =>
      rw [perform_cancelled_fst engine hname]
      split
      · exact .single (.close s c)
      · exact .refl
  | shutdown r => exact .single (.shutdown s r)
  | _ => exact (perform_quietChanges engine rfl s).changes

/-- All steps of a program are a chain of changes, one after the other. -/
theorem runAll_changes (steps : List Step) (s : Session World Handle) :
    Changes engine s (s.runAll engine steps).1 := by
  cases steps with
  | nil => exact .refl
  | cons step rest =>
    exact (perform_changes step s).trans (.head (.quiet _ _ (.tell _)) (runAll_changes rest _))

/-- The steps up to the first error are a chain of changes too. -/
theorem runUntilError_changes (steps : List Step) (s : Session World Handle) :
    Changes engine s (s.runUntilError engine steps).1 := by
  cases steps with
  | nil => exact .refl
  | cons step rest =>
    have hstep : Changes engine s (s.perform engine step).1.tell.1 :=
      (perform_changes step s).tail (.quiet _ _ (.tell _))
    simp only [runUntilError]
    split
    · exact hstep
    · exact hstep.trans (runUntilError_changes rest _)

end

/-- Giving up names one by one is a chain of changes, each of which may release a connection. -/
theorem unbindAll_changes (names : List String) (s : Session World Handle) :
    Changes engine s (s.unbindAll engine names) := by
  induction names generalizing s with
  | nil => exact .refl
  | cons name rest ih => exact .head (.quiet _ _ (.unbind s name)) (ih _)

/-- All that happens at the end of a program is a chain of changes: names are given up, and
    registries shut down. -/
theorem finish_changes (s : Session World Handle) : Changes engine s (s.finish engine) :=
  (unbindAll_changes engine _ s).trans
    (.head (.shutdown _ .session) (.single (.shutdown _ .process)))

/-! ### Changes as moves -/

variable {engine}

/-- A change that leaves scopes alone is a chain of moves. -/
theorem QuietChange.moves {s t : Session World Handle} (h : QuietChange engine s t) :
    Moves engine s t := by
  cases h with
  | connect name options =>
    exact (connect_moves engine .owned options s).trans (bindResult_moves engine name _)
  | bind name c _ => exact bind_moves engine name c s
  | unbind name => exact unbind_moves engine name s
  | execute c statement params => exact execute_moves engine c statement params s
  | batch c sql => exact executeBatch_moves engine c sql s
  | acquire r => exact acquire_moves engine r s
  | tell => exact tell_moves engine s

/-- Every change is a chain of moves, also where a scope is entered or left. -/
theorem Change.moves {s t : Session World Handle} (h : Change engine s t) : Moves engine s t := by
  cases h with
  | quiet _ h => exact h.moves
  | hold c _ => exact hold_moves engine c s
  | unhold => exact unhold_moves engine s
  | close c => exact close_moves engine c s
  | shutdown r => exact shutdown_moves engine r s

/-- Changes come down to moves. -/
theorem Changes.moves {s t : Session World Handle} (h : Changes engine s t) :
    Moves engine s t := by
  induction h with
  | refl => exact .refl
  | tail _ hchange ih => exact ih.trans hchange.moves

/-- What every move keeps, every chain of changes keeps. -/
theorem Changes.keeps {P : Session World Handle → Prop}
    (hmove : ∀ s t, Move engine s t → P s → P t) {s t : Session World Handle}
    (h : Changes engine s t) (hs : P s) : P t := by
  have hmoves := h.moves
  -- the invariant is about moves, so the chain of changes is no longer needed
  clear h
  induction hmoves with
  | refl => exact hs
  | tail _ hstep ih => exact hmove _ _ hstep ih

/-! ### Scopes are left in order -/

/-- A change that leaves scopes alone does not touch the list of the connections they are on. -/
theorem QuietChange.held_eq {s t : Session World Handle} (h : QuietChange engine s t) :
    t.held = s.held := by
  cases h with
  | connect name options =>
    exact (bindResult_held engine name _).trans (connect_references engine .owned options s).held
  | bind name c _ => exact (bind_references engine name c s).held
  | unbind name => exact (unbind_references engine name s).held
  | execute c statement params => exact (execute_references engine c statement params s).held
  | batch c sql => exact (executeBatch_references engine c sql s).held
  | acquire r =>
    rcases acquire_references engine r s with h | h
    · exact h.held
    · exact h.held
  | tell => rfl

/-- Changes that leave scopes alone leave the scopes there are. -/
theorem QuietChanges.held_eq {s t : Session World Handle} (h : QuietChanges engine s t) :
    t.held = s.held := by
  induction h with
  | refl => rfl
  | tail _ hchange ih => exact hchange.held_eq.trans ih

variable (engine)

/-- A connection taken into use last is given up first. -/
theorem unhold_held_of_cons {s : Session World Handle} {c : Nat} {rest : List Nat}
    (h : s.held = c :: rest) : (s.unhold engine).held = rest := by
  rw [(unhold_references engine s).held]
  simp [h]

mutual

/-- A step leaves the scopes around it as they are, as it leaves every scope that it enters. -/
theorem perform_held (step : Step) (s : Session World Handle) :
    (s.perform engine step).1.held = s.held := by
  cases step with
  | close name =>
    cases hname : s.named? name with
    | none => rw [(perform_fst_of_named?_eq_none engine hname).1]
    | some c =>
      rw [perform_close_fst engine hname]
      exact (close_references engine c s).held
  | scope name steps leave =>
    cases hname : s.named? name with
    | none => rw [(perform_fst_of_named?_eq_none engine hname).2.2.1]
    | some c =>
      rw [perform_scope_fst engine hname]
      -- the program inside gives back what it takes, so its connection is on top again
      apply unhold_held_of_cons
      rw [(close_references engine c _).held, runAll_held steps (s.hold c)]
      rfl
  | within name nickname steps result =>
    cases hname : s.named? name with
    | none => rw [(perform_fst_of_named?_eq_none engine hname).2.2.2]
    | some c =>
      rw [perform_within_fst engine hname]
      apply unhold_held_of_cons
      rw [(close_references engine c _).held, runUntilError_held steps _,
        (bind_references engine nickname c _).held]
      rfl
  | cancelled name polled =>
    cases hname : s.named? name with
    | none => rw [(perform_fst_of_named?_eq_none engine hname).2.1]
    | some c =>
      rw [perform_cancelled_fst engine hname]
      split
      · exact (close_references engine c s).held
      · rfl
  | shutdown r => exact (shutdown_references engine r s).held
  | _ => exact (perform_quietChanges engine rfl s).held_eq

/-- After steps one by one, the scopes entered are those entered before: each step leaves the
    scopes that it enters. -/
theorem runAll_held (steps : List Step) (s : Session World Handle) :
    (s.runAll engine steps).1.held = s.held := by
  cases steps with
  | nil => rfl
  | cons step rest => exact (runAll_held rest _).trans (perform_held step s)

/-- So it is if the steps stop at the first error. -/
theorem runUntilError_held (steps : List Step) (s : Session World Handle) :
    (s.runUntilError engine steps).1.held = s.held := by
  cases steps with
  | nil => rfl
  | cons step rest =>
    have hstep : (s.perform engine step).1.tell.1.held = s.held := perform_held step s
    simp only [runUntilError]
    split
    · exact hstep
    · exact (runUntilError_held rest _).trans hstep

end

end Session

end SqlClient
