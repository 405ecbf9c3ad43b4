import SqlClient.Proofs.Session.Requests

namespace SqlClient

/-!
# Opening connections

Two counts run side by side.  The engine counts every attempt to open a handle, and the
session only those that go well: each of these makes a connection with the next place, and
takes the next id from the counter.

* `Event.attempt?` — the number of an attempt, in the log.
* `Session.openings` — what became of the attempts in a step, through all programs inside it.
* `Session.Opened` — a session in which these attempts were made.
* `Session.perform_opened`, … — every step adds its attempts to those before.
* `Session.Reaching` — the states in which a step of a program is done, with the attempts so far.
-/

/-- The number of the attempt that a call is, if it is one. -/
def Event.attempt? : Event → Option Nat
  | opened number => some number
  | _ => none

/-- A step in which no connection is opened, unless by a program inside it. -/
def Step.opensNothing : Step → Bool
  | .connect _ _ => false
  | .execute none _ _ => false
  | .scope _ _ _ => false
  | .within _ _ _ _ => false
  | .acquire _ _ => false
  | .acquireMany _ => false
  | _ => true

namespace Session

variable {World Handle : Type} (engine : Engine World Handle)

/-! ### The attempts in a step -/

/-- A registry tries to open a connection if its slot is empty. -/
def acquireOpenings (r : RegistryName) (s : Session World Handle) : List (Except Error Nat) :=
  if (s.registry r).slot = none then [(s.acquire engine r).2] else []

/-- What becomes of the attempts of a registry that is asked so many times. -/
def acquireManyOpenings (r : RegistryName) : Nat → Session World Handle → List (Except Error Nat)
  | 0, _ => []
  | count + 1, s =>
    acquireOpenings engine r s ++ acquireManyOpenings r count (s.acquire engine r).1

mutual

/-- What becomes of the attempts to open a connection that are made in a step, in the order of
    time: a connection, or an error. -/
def openings (step : Step) (s : Session World Handle) : List (Except Error Nat) :=
  match step with
  | .connect _ options => [(s.connect engine .owned options).2]
  | .acquire r _ => acquireOpenings engine r s
  | .acquireMany count => acquireManyOpenings engine .session count s
  | .execute none _ _ => acquireOpenings engine .process s
  | .scope name steps _ =>
    match s.named? name with
    | none => []
    | some c => openingsInAll steps (s.hold c)
  | .within name nickname steps _ =>
    match s.named? name with
    | none => []
    | some c => openingsBeforeError steps ((s.hold c).bind engine nickname c)
  | _ => []

/-- Those in all steps of a program. -/
def openingsInAll (steps : List Step) (s : Session World Handle) : List (Except Error Nat) :=
  match steps with
  | [] => []
  | step :: rest => openings step s ++ openingsInAll rest (s.perform engine step).1.tell.1

/-- Those in the steps up to the first error. -/
def openingsBeforeError (steps : List Step) (s : Session World Handle) :
    List (Except Error Nat) :=
  match steps with
  | [] => []
  | step :: rest =>
    match (s.perform engine step).2.error? with
    | some _ => openings step s
    | none => openings step s ++ openingsBeforeError rest (s.perform engine step).1.tell.1

end

/-- A step that opens nothing has no openings to show, in whatever session it is done. -/
theorem openings_of_opensNothing {step : Step} (hstep : step.opensNothing = true)
    (s : Session World Handle) : openings engine step s = [] := by
  cases step with
  | execute target statement params =>
    cases target with
    | none => exact absurd hstep (by simp [Step.opensNothing])
    | some name => simp only [openings]
  | connect => exact absurd hstep (by simp [Step.opensNothing])
  | scope => exact absurd hstep (by simp [Step.opensNothing])
  | within => exact absurd hstep (by simp [Step.opensNothing])
  | acquire => exact absurd hstep (by simp [Step.opensNothing])
  | acquireMany => exact absurd hstep (by simp [Step.opensNothing])
  | _ => simp only [openings]

/-! ### Operations that open nothing -/

/-- Releasing a handle is no attempt to open one. -/
theorem release_attempts (c : Nat) (s : Session World Handle) :
    (s.release engine c).1.attempts = s.attempts := by
  rcases release_cases engine c s with ⟨_, heq⟩ | ⟨_, _, _, _, _, heq⟩
  · rw [heq]
  · rw [heq]
    rfl

/-- Neither is closing by hand. -/
theorem close_attempts (c : Nat) (s : Session World Handle) :
    (s.close engine c).1.attempts = s.attempts := by
  unfold close
  split
  · rfl
  · exact release_attempts engine c s

/-- Neither is letting a connection go, even if its handle is released for that. -/
theorem letGo_attempts (c : Nat) (s : Session World Handle) :
    (s.letGo engine c).attempts = s.attempts := by
  unfold letGo
  split
  · rfl
  · exact release_attempts engine c s

/-- Binding a name opens nothing; the connection is there already. -/
theorem bind_attempts (name : String) (c : Nat) (s : Session World Handle) :
    (s.bind engine name c).attempts = s.attempts := by
  unfold bind
  cases s.named? name with
  | none => rfl
  | some old => exact letGo_attempts engine old _

/-- The attempt was made before its result is bound to a name, and is not made again. -/
theorem bindResult_attempts (name : String) (p : Session World Handle × Except Error Nat) :
    (bindResult engine name p).1.attempts = p.1.attempts := by
  obtain ⟨s, e | c⟩ := p
  · rfl
  · exact bind_attempts engine name c s

/-- Giving a name up opens nothing. -/
private theorem unbind_attempts (name : String) (s : Session World Handle) :
    (s.unbind engine name).attempts = s.attempts := by
  unfold unbind
  cases s.named? name with
  | none => rfl
  | some c => exact letGo_attempts engine c _

/-- Leaving a scope opens nothing. -/
private theorem unhold_attempts (s : Session World Handle) :
    (s.unhold engine).attempts = s.attempts := by
  unfold unhold
  split
  · rfl
  · exact letGo_attempts engine _ _

/-- A statement runs on the handle there is, and opens none. -/
theorem execute_attempts (c : Nat) (statement : String) (params : List Value)
    (s : Session World Handle) :
    (s.execute engine c statement params).1.attempts = s.attempts := by
  rcases execute_cases engine c statement params s with ⟨_, heq⟩ | ⟨_, _, _, _, _, _, heq⟩
  · rw [heq]
    rfl
  · rw [heq]
    rfl

/-- So does a batch. -/
private theorem executeBatch_attempts (c : Nat) (sql : String) (s : Session World Handle) :
    (s.executeBatch engine c sql).1.attempts = s.attempts := by
  rcases executeBatch_cases engine c sql s with ⟨_, heq⟩ | ⟨_, _, _, _, _, _, heq⟩
  · rw [heq]
    rfl
  · rw [heq]
    rfl

/-- A registry that shuts down opens nothing, so the next request for its connection is one more
    attempt. -/
private theorem shutdown_attempts (r : RegistryName) (s : Session World Handle) :
    (s.shutdown engine r).1.attempts = s.attempts := by
  unfold shutdown
  split
  · rfl
  · exact release_attempts engine _ _

/-- A step that opens nothing makes no attempt, so the engine counts the same number of them. -/
theorem perform_attempts {step : Step} (hstep : step.opensNothing = true)
    (s : Session World Handle) : (s.perform engine step).1.attempts = s.attempts := by
  cases step with
  | clone source name => exact onNamed_keeps (·.attempts) fun c => bind_attempts engine name c s
  | drop name => exact onNamed_keeps (·.attempts) fun _ => unbind_attempts engine name s
  | execute target statement params =>
    cases target with
    | none => exact absurd hstep (by simp [Step.opensNothing])
    | some name =>
      refine onNamed_keeps (·.attempts) fun c => ?_
      rw [rowsResult_fst]
      exact execute_attempts engine c statement params s
  | batch name sql => exact onNamed_keeps (·.attempts) fun c => executeBatch_attempts engine c sql s
  | close name => exact onNamed_keeps (·.attempts) fun c => close_attempts engine c s
  | cancelled name polled =>
    refine onNamed_keeps (·.attempts) fun c => ?_
    unfold cancel dropGuard
    split
    · exact close_attempts engine c s
    · rfl
  | sameHandle first second =>
    exact onNamed_keeps (·.attempts) fun _ => onNamed_keeps (·.attempts) fun _ => rfl
  | shutdown r => exact shutdown_attempts engine r s
  | connect => exact absurd hstep (by simp [Step.opensNothing])
  | scope => exact absurd hstep (by simp [Step.opensNothing])
  | within => exact absurd hstep (by simp [Step.opensNothing])
  | acquire => exact absurd hstep (by simp [Step.opensNothing])
  | acquireMany => exact absurd hstep (by simp [Step.opensNothing])
  | isInitialized => rfl
  | describeRegistry => rfl
  | unknown => rfl
  | _ => exact onNamed_keeps (·.attempts) fun _ => rfl

/-! ### Sessions and attempts -/

/-- A session in which these attempts were made: the engine has counted them all, and those
    that went well have made the connections, one place after the other, and have taken the ids
    from 1 on, so the counter is one ahead of the connections. -/
structure Opened (results : List (Except Error Nat)) (s : Session World Handle) : Prop where
  attempts_eq : s.attempts = results.length
  log_eq : s.log.filterMap Event.attempt? = (List.range results.length).map (· + 1)
  places_eq : results.filterMap Except.toOption = List.range s.connections.length
  ids_eq : s.connections.map (·.id) = List.range' 1 s.connections.length
  nextId_eq : s.nextId = s.connections.length + 1
  /-- the handle of a connection is the one its own attempt has opened -/
  result_of_number : ∀ c k, s.handleNumber? c = some k →
    ∃ i, k = i + 1 ∧ results[i]? = some (.ok c)

/-- At the start nothing was opened and nothing was attempted. -/
private theorem start_opened (world : World) (registry : RegistryName → Options) :
    Opened [] (start world registry : Session World Handle) where
  attempts_eq := rfl
  log_eq := rfl
  places_eq := rfl
  ids_eq := rfl
  nextId_eq := rfl
  result_of_number c k h := by simp [handleNumber?, handle?, start] at h

variable {engine} {results : List (Except Error Nat)} {s t : Session World Handle}

/-- Attempts to open a handle are counted up, never down. -/
theorem Move.attempts_le (h : Move engine s t) : s.attempts ≤ t.attempts := by
  cases h with
  | opened => exact Nat.le_succ _
  | missed => exact Nat.le_succ _
  | _ => exact le_rfl

/-- So it is over any number of moves. -/
theorem Moves.attempts_le (h : Moves engine s t) : s.attempts ≤ t.attempts := by
  induction h with
  | refl => exact le_rfl
  | tail _ hmove ih => exact ih.trans hmove.attempts_le

/-- A call to the handle of a connection opens none: the record stays complete, whether the handle
    is kept or given up. -/
private theorem Opened.call (hs : Opened results s) {c : Nat} {handle : Option (Nat × Handle)}
    {event : Event} (hevent : event.attempt? = none) (world : World) (tasks : Nat)
    (hnumber : ∀ d k, (s.setHandle c handle).handleNumber? d = some k →
      s.handleNumber? d = some k) :
    Opened results { s.setHandle c handle with
      world := world, tasks := tasks, log := s.log ++ [event] } := by
  have hlength := length_setHandle s c handle
  refine ⟨hs.attempts_eq, ?_, hs.places_eq.trans (congrArg List.range hlength.symm), ?_,
    hs.nextId_eq.trans (congrArg (· + 1) hlength.symm),
    fun d k hd => hs.result_of_number d k (hnumber d k hd)⟩
  · rw [List.filterMap_append, hs.log_eq]
    simp [hevent]
  · exact (ids_setHandle s c _).trans (hs.ids_eq.trans (congrArg (List.range' 1) hlength.symm))

/-- A move that is no attempt leaves the record of attempts complete, as no connection is opened
    by it. -/
theorem Opened.move (hs : Opened results s) (h : Move engine s t)
    (hattempts : t.attempts = s.attempts) : Opened results t := by
  cases h with
  | refer names held registry tasks told =>
    exact ⟨hs.attempts_eq, hs.log_eq, hs.places_eq, hs.ids_eq, hs.nextId_eq,
      hs.result_of_number⟩
  | opened => exact absurd hattempts (Nat.succ_ne_self _)
  | missed => exact absurd hattempts (Nat.succ_ne_self _)
  | asked c number handle handle' world event hc hstatement _ =>
    -- a statement or a batch is no attempt to open something
    have hevent : event.attempt? = none := by
      cases event with
      | opened => exact absurd hstatement (by simp [Event.isStatement])
      | _ => rfl
    refine hs.call hevent world (s.tasks + 1) fun d k hd => ?_
    rw [← handleNumber?_setHandle_some hc handle' d]
    exact hd
  | released c number handle world hc =>
    -- where there is a handle afterwards, it is not that of the one released
    refine hs.call rfl world s.tasks fun d k hd => ?_
    rw [handleNumber?_setHandle_none] at hd
    split at hd
    · exact absurd hd (by simp)
    · exact hd

/-- Any moves without an attempt leave the record complete. -/
theorem Opened.keep (hs : Opened results s) (h : Moves engine s t)
    (hattempts : t.attempts = s.attempts) : Opened results t := by
  induction h with
  | refl => exact hs
  | tail hmoves hmove ih =>
    -- the count never goes down, so no move on the way has counted on
    have hbefore := Moves.attempts_le hmoves
    have hafter := hmove.attempts_le
    exact (ih (by omega)).move hmove (by omega)

/-- The id of a connection is its place counted from 1. -/
theorem Opened.idOf_eq (hs : Opened results s) {c : Nat} (hc : c < s.connections.length) :
    s.idOf c = c + 1 := by
  rw [Session.idOf_eq, hs.ids_eq, List.getElem?_range' hc]
  simp [Nat.add_comm]

variable (engine)

/-- One attempt adds one result to the record: a connection at the next place and with the next
    id, or an error. -/
theorem Opened.connect (hs : Opened results s) (ownership : Ownership) (options : Options) :
    Opened (results ++ [(s.connect engine ownership options).2])
      (s.connect engine ownership options).1 := by
  have hlog : (s.log ++ [Event.opened (s.attempts + 1)]).filterMap Event.attempt? =
      (List.range (results.length + 1)).map (· + 1) := by
    rw [List.filterMap_append, hs.log_eq, List.range_succ, List.map_append, hs.attempts_eq]
    rfl
  -- the handles that are there were opened by earlier attempts
  have hearlier (result : Except Error Nat) (c k : Nat) (hc : s.handleNumber? c = some k) :
      ∃ i, k = i + 1 ∧ (results ++ [result])[i]? = some (.ok c) := by
    obtain ⟨i, rfl, hi⟩ := hs.result_of_number c k hc
    refine ⟨i, rfl, ?_⟩
    rw [List.getElem?_append_left (List.getElem?_eq_some_iff.mp hi).1, hi]
  rcases connect_cases engine ownership options s with
    ⟨world, handle, _, heq⟩ | ⟨world, e, _, heq⟩
  · rw [heq]
    refine ⟨by simp [hs.attempts_eq], by simpa using hlog, ?_, ?_, ?_, fun c k hc => ?_⟩
    · simp [List.range_succ, hs.places_eq, Except.toOption]
    -- the counter stands at the next id, and moves on
    · rw [List.map_append, hs.ids_eq, List.length_append, List.length_singleton,
        List.range'_concat]
      simp [hs.nextId_eq, Nat.add_comm]
    · simp [hs.nextId_eq]
    · rw [handleNumber?_append rfl] at hc
      split at hc
      · rename_i hlast
        obtain rfl := Option.some.inj hc
        exact ⟨s.attempts, rfl, by simp [hs.attempts_eq, hlast]⟩
      · exact hearlier _ c k hc
  · rw [heq]
    refine ⟨by simp [hs.attempts_eq], by simpa using hlog, ?_, hs.ids_eq, hs.nextId_eq,
      hearlier (.error e)⟩
    simp [hs.places_eq, Except.toOption]

/-- A registry that is asked for its connection makes one attempt at most, and the result is the
    next of all results. -/
theorem Opened.acquire (hs : Opened results s) (r : RegistryName) :
    Opened (results ++ acquireOpenings engine r s) (s.acquire engine r).1 := by
  unfold acquireOpenings
  have hconnect := hs.connect engine .shared (s.registry r).options
  rcases acquire_cases engine r s with
    ⟨c, hslot, heq⟩ | ⟨t, c, hslot, ht, heq⟩ | ⟨t, e, hslot, ht, heq⟩
  · rw [if_neg (by simp [hslot]), List.append_nil, heq]
    exact hs
  · rw [ht] at hconnect
    rw [if_pos hslot, heq]
    exact hconnect.keep (setSlot_moves engine r (some c) t) rfl
  · rw [ht] at hconnect
    rw [if_pos hslot, heq]
    exact hconnect

/-- A registry that is asked many times makes attempts until it keeps a connection, and none after
    that. -/
theorem Opened.acquireMany (hs : Opened results s) (r : RegistryName) (count : Nat) :
    Opened (results ++ acquireManyOpenings engine r count s)
      (s.acquireMany engine r count).1 := by
  induction count generalizing results s with
  | zero => simpa [acquireManyOpenings, Session.acquireMany] using hs
  | succ count ih =>
    have hrest := ih (hs.acquire engine r)
    rw [List.append_assoc] at hrest
    exact hrest

/-- Leaving a scope opens nothing, so the record stays complete. -/
theorem Opened.leave (hs : Opened results s) (c : Nat) :
    Opened results ((s.close engine c).1.unhold engine) := by
  have hclosed : Opened results (s.close engine c).1 :=
    hs.keep (close_moves engine c s) (close_attempts engine c s)
  exact hclosed.keep (unhold_moves engine _) (unhold_attempts engine _)

/-- Once the shared connection is there, a statement opens nothing. -/
theorem executeShared_attempts (statement : String) (params : List Value)
    (s : Session World Handle) :
    (s.executeShared engine statement params).1.attempts =
      (s.acquire engine .process).1.attempts := by
  unfold executeShared
  rcases s.acquire engine .process with ⟨t, e | c⟩
  · rfl
  · exact execute_attempts engine c statement params t

mutual

/-- **Every step adds its attempts** to the record, in their order, and no others. -/
theorem perform_opened (step : Step) {results : List (Except Error Nat)}
    {s : Session World Handle} (h : Opened results s) :
    Opened (results ++ openings engine step s) (s.perform engine step).1 := by
  cases step with
  | connect name options =>
    simp only [openings, perform]
    -- after the attempt only a name is bound
    exact (h.connect engine .owned options).keep (bindResult_moves engine name _)
      (bindResult_attempts engine name _)
  | acquire r name =>
    simp only [openings, perform]
    exact (h.acquire engine r).keep (bindResult_moves engine name _)
      (bindResult_attempts engine name _)
  | acquireMany count =>
    simp only [openings, perform]
    exact h.acquireMany engine .session count
  | execute target statement params =>
    cases target with
    | some name =>
      rw [openings_of_opensNothing engine rfl, List.append_nil]
      exact h.keep (perform_changes engine _ s).moves (perform_attempts engine rfl s)
    | none =>
      simp only [openings, perform, rowsResult_fst]
      exact (h.acquire engine .process).keep (executeShared_moves engine statement params s)
        (executeShared_attempts engine statement params s)
  | scope name steps leave =>
    cases hname : s.named? name with
    | none =>
      rw [(perform_fst_of_named?_eq_none engine hname).2.2.1]
      simpa [openings, hname] using h
    | some c =>
      rw [perform_scope_fst engine hname]
      simp only [openings, hname]
      -- neither entering nor leaving is an attempt
      have hentered : Opened results (s.hold c) := h.keep (hold_moves engine c s) rfl
      exact (runAll_opened steps hentered).leave engine c
  | within name nickname steps result =>
    cases hname : s.named? name with
    | none =>
      rw [(perform_fst_of_named?_eq_none engine hname).2.2.2]
      simpa [openings, hname] using h
    | some c =>
      rw [perform_within_fst engine hname]
      simp only [openings, hname]
      have hentered : Opened results (s.hold c) := h.keep (hold_moves engine c s) rfl
      have hbegun : Opened results ((s.hold c).bind engine nickname c) :=
        hentered.keep (bind_moves engine nickname c _) (bind_attempts engine nickname c _)
      exact (runUntilError_opened steps hbegun).leave engine c
  | _ =>
    rw [openings_of_opensNothing engine rfl, List.append_nil]
    exact h.keep (perform_changes engine _ s).moves (perform_attempts engine rfl s)

/-- All steps of a program add their attempts to the record, one step after the other. -/
theorem runAll_opened (steps : List Step) {results : List (Except Error Nat)}
    {s : Session World Handle} (h : Opened results s) :
    Opened (results ++ openingsInAll engine steps s) (s.runAll engine steps).1 := by
  cases steps with
  | nil =>
    rw [openingsInAll, List.append_nil]
    exact h
  | cons step rest =>
    have hstep := (perform_opened step h).keep (tell_moves engine _) rfl
    simp only [openingsInAll, ← List.append_assoc]
    exact runAll_opened rest hstep

/-- So do its steps up to the first error. -/
theorem runUntilError_opened (steps : List Step) {results : List (Except Error Nat)}
    {s : Session World Handle} (h : Opened results s) :
    Opened (results ++ openingsBeforeError engine steps s)
      (s.runUntilError engine steps).1 := by
  cases steps with
  | nil =>
    rw [openingsBeforeError, List.append_nil]
    exact h
  | cons step rest =>
    have hstep := (perform_opened step h).keep (tell_moves engine _) rfl
    cases herror : (s.perform engine step).2.error? with
    | some e =>
      simp only [openingsBeforeError, runUntilError, herror]
      exact hstep
    | none =>
      simp only [openingsBeforeError, runUntilError, herror, ← List.append_assoc]
      exact runUntilError_opened rest hstep

end

/-! ### Whole programs -/

/-- The states in which a step of a program is done, those inside its scopes included, with
    what became of all attempts to open a connection so far. -/
inductive Reaching (world : World) (registry : RegistryName → Options) :
    List (Except Error Nat) → Session World Handle → Prop where
  | start : Reaching world registry [] (start world registry)
  | perform {results : List (Except Error Nat)} {s : Session World Handle} (step : Step)
      (h : Reaching world registry results s) :
      Reaching world registry (results ++ openings engine step s) (s.perform engine step).1
  | tell {results : List (Except Error Nat)} {s : Session World Handle}
      (h : Reaching world registry results s) : Reaching world registry results s.tell.1
  /-- a scope is entered -/
  | scope {results : List (Except Error Nat)} {s : Session World Handle} (name : String) (c : Nat)
      (h : Reaching world registry results s) (hname : s.named? name = some c) :
      Reaching world registry results (s.hold c)
  /-- a scope is entered in which the connection has another name too -/
  | within {results : List (Except Error Nat)} {s : Session World Handle}
      (name nickname : String) (c : Nat) (h : Reaching world registry results s)
      (hname : s.named? name = some c) :
      Reaching world registry results ((s.hold c).bind engine nickname c)

variable {engine} {world : World} {registry : RegistryName → Options}

/-- The states after any program are reached with the attempts of the program on record. -/
theorem Reaching.runAll (h : Reaching engine world registry results s) (steps : List Step) :
    Reaching engine world registry (results ++ openingsInAll engine steps s)
      (s.runAll engine steps).1 := by
  induction steps generalizing results s with
  | nil =>
    rw [openingsInAll, List.append_nil]
    exact h
  | cons step rest ih =>
    simp only [openingsInAll, ← List.append_assoc]
    exact ih (h.perform step).tell

/-- A session with a record of what was opened on the way is one that steps lead to. -/
theorem Reaching.reachable (h : Reaching engine world registry results s) :
    Reachable engine world registry s := by
  induction h with
  | start => exact .start
  | perform step _ ih => exact .perform _ step ih
  | tell _ ih => exact .tell _ ih
  | scope name c _ hname ih => exact .scope _ name c ih hname
  | within name nickname c _ hname ih => exact .within _ name nickname c ih hname

/-- In each of them the attempts made so far have made its connections. -/
theorem Reaching.opened (h : Reaching engine world registry results s) : Opened results s := by
  induction h with
  | start => exact start_opened world registry
  | perform step _ ih => exact perform_opened engine step ih
  | tell _ ih => exact ih.keep (tell_moves engine _) rfl
  | scope name c _ _ ih => exact ih.keep (hold_moves engine c _) rfl
  | within name nickname c _ _ ih =>
    have hentered := ih.keep (hold_moves engine c _) rfl
    exact hentered.keep (bind_moves engine nickname c _) (bind_attempts engine nickname c _)

end Session

end SqlClient
