import SqlClient.Proofs.Session.Requests

namespace SqlClient.Session

/-!
# One shared connection

A registry has at most one open connection, the one in its slot, and hands it out until it
is shut down.  It asks the engine for another one only where the slot is empty, once each
time, and as often as it takes.

* `Acquired`, `acquire_acquired` — what asking a registry once does.
* `OpensAfter` — how often the engine will fail before it opens a handle.
* `AcquiredMany`, `acquireMany_acquiredMany` — what asking an empty registry often does.
* `Reached` — the states in which a step of a program is done, with the requests so far.
* `single_default` — the whole account, in every state that is reached.
-/

variable {World Handle : Type} (engine : Engine World Handle)

/-! ### Asking once -/

/-- The engine opens a handle when it is asked next, for a registry. -/
def OpensNext (r : RegistryName) (s : Session World Handle) : Prop :=
  ∃ handle, (engine.openHandle s.world (s.attempts + 1) (s.registry r).options).2 = .done handle

/-- What asking a registry for its connection does: the state before, the state after, and
    the answer. -/
structure Acquired (r : RegistryName) (s t : Session World Handle) (result : Except Error Nat) :
    Prop where
  /-- the engine is asked if the slot is empty, once -/
  log_eq : t.log = s.log ++
    if (s.registry r).slot = none then [.opened (s.attempts + 1)] else []
  /-- the slot is filled unless it was empty and the engine fails -/
  isSome_slot_iff : (t.registry r).slot.isSome = true ↔
    (s.registry r).slot.isSome = true ∨ OpensNext engine r s
  /-- what is handed out is in the slot, and the other way round -/
  ok_iff : ∀ c, result = .ok c ↔ (t.registry r).slot = some c
  /-- what was there is handed out -/
  ok_of_slot : ∀ c, (s.registry r).slot = some c → result = .ok c
  /-- only an open connection is handed out -/
  isClosed_of_ok : ∀ c, result = .ok c → t.isClosed c = false ∧ t.isShared c = true

/-- A connection that a registry keeps is handed out, and nothing is opened for that. -/
theorem acquire_of_slot {r : RegistryName} {s : Session World Handle} {c : Nat}
    (hslot : (s.registry r).slot = some c) : s.acquire engine r = (s, .ok c) := by
  simp only [acquire, hslot]

/-- Connecting leaves the world of the engine as opening a handle leaves it, be it opened or
    not. -/
private theorem connect_world (ownership : Ownership) (options : Options)
    (s : Session World Handle) :
    (s.connect engine ownership options).1.world =
      (engine.openHandle s.world (s.attempts + 1) options).1 := by
  simp only [connect, note]
  split
  · rfl
  · rfl

/-- Where the slot is empty and the engine opens a handle, the new connection goes there. -/
theorem acquire_of_opensNext {r : RegistryName} {s : Session World Handle}
    (hslot : (s.registry r).slot = none) (hopens : OpensNext engine r s) :
    ∃ t, s.acquire engine r = (t, .ok s.connections.length) ∧
      (t.registry r).slot = some s.connections.length ∧
      t.log = s.log ++ [.opened (s.attempts + 1)] := by
  rcases connect_cases engine .shared (s.registry r).options s with
    ⟨world, handle, _, heq⟩ | ⟨_, _, hfails, _⟩
  · refine ⟨(s.acquire engine r).1, ?_, ?_, ?_⟩
    · simp only [acquire, hslot, heq]
    · simp only [acquire, hslot, heq, slot_setSlot_self]
    · simp only [acquire, hslot, heq]
      rfl
  · obtain ⟨handle, hdone⟩ := hopens
    exact absurd hdone (hfails handle)

/-- Where it opens none, the attempt is all that happens. -/
theorem acquire_of_not_opensNext {r : RegistryName} {s : Session World Handle}
    (hslot : (s.registry r).slot = none) (hfails : ¬ OpensNext engine r s) :
    ∃ t e, s.acquire engine r = (t, .error e) ∧
      t.world = (engine.openHandle s.world (s.attempts + 1) (s.registry r).options).1 ∧
      t.attempts = s.attempts + 1 ∧ t.connections = s.connections ∧ t.registry = s.registry ∧
      t.log = s.log ++ [.opened (s.attempts + 1)] := by
  have hworld := connect_world engine .shared (s.registry r).options s
  rcases connect_cases engine .shared (s.registry r).options s with
    ⟨world, handle, hdone, _⟩ | ⟨world, e, _, heq⟩
  · exact absurd ⟨handle, hdone⟩ hfails
  · rw [heq] at hworld
    exact ⟨_, e, by simp only [acquire, hslot, heq], hworld, rfl, rfl, rfl, rfl⟩

variable {engine}

/-- **Asking a registry once** gives the connection that it keeps, or makes one attempt to open
    one. -/
theorem acquire_acquired {s : Session World Handle} (hs : Coherent s) (h : Registered s)
    (r : RegistryName) :
    Acquired engine r s (s.acquire engine r).1 (s.acquire engine r).2 := by
  have hthen : Registered (s.acquire engine r).1 := h.acquire engine hs r
  -- what is in a slot afterwards is open and shared
  have hopen (c : Nat) (hc : ((s.acquire engine r).1.registry r).slot = some c) :
      (s.acquire engine r).1.isClosed c = false ∧ (s.acquire engine r).1.isShared c = true :=
    ((hthen.isOpenShared_iff c).mpr ⟨r, hc⟩).symm
  cases hslot : (s.registry r).slot with
  | some c =>
    rw [acquire_of_slot engine hslot] at hopen ⊢
    have hok (d : Nat) : (.ok c : Except Error Nat) = .ok d ↔ (s.registry r).slot = some d := by
      rw [hslot, Except.ok.injEq, Option.some.injEq]
    exact ⟨by simp [hslot], by simp [hslot], hok, fun d hd => (hok d).mpr hd,
      fun d hd => hopen d ((hok d).mp hd)⟩
  | none =>
    by_cases hopens : OpensNext engine r s
    · obtain ⟨t, heq, hfilled, hlog⟩ := acquire_of_opensNext engine hslot hopens
      rw [heq] at hopen ⊢
      have hok (d : Nat) : (.ok s.connections.length : Except Error Nat) = .ok d ↔
          (t.registry r).slot = some d := by
        rw [hfilled, Except.ok.injEq, Option.some.injEq]
      exact ⟨by simpa [hslot] using hlog, by simp [hfilled, hopens], hok, by simp [hslot],
        fun d hd => hopen d ((hok d).mp hd)⟩
    · obtain ⟨t, e, heq, -, -, -, hregistry, hlog⟩ :=
        acquire_of_not_opensNext engine hslot hopens
      rw [heq]
      have hempty : (t.registry r).slot = none := by rw [hregistry, hslot]
      exact ⟨by simpa [hslot] using hlog, by simp [hempty, hslot, hopens], by simp [hempty],
        by simp [hslot], by simp⟩

/-! ### Asking often -/

variable (engine) in
/-- The engine fails so many times to open a handle, and opens one then. -/
inductive OpensAfter (options : Options) : Nat → World → Nat → Prop where
  | now {world : World} {number : Nat} {handle : Handle}
      (h : (engine.openHandle world number options).2 = .done handle) :
      OpensAfter options 0 world number
  | later {failures : Nat} {world : World} {number : Nat}
      (h : ∀ handle, (engine.openHandle world number options).2 ≠ .done handle)
      (hrest : OpensAfter options failures (engine.openHandle world number options).1
        (number + 1)) :
      OpensAfter options (failures + 1) world number

/-- What asking a registry so often does, where its slot is empty and the engine fails so
    often. -/
structure AcquiredMany (failures count : Nat) (s t : Session World Handle)
    (answers : List (Except Error Nat)) : Prop where
  /-- an error for every failure, and then the connection opened after them -/
  answers_eq : ∃ errors : List Error, errors.length = min count failures ∧
    answers = errors.map .error ++
      List.replicate (count - min count failures) (.ok s.connections.length)
  /-- the engine is asked until it opens a handle, and not again -/
  log_eq : t.log = s.log ++
    (List.range (min count (failures + 1))).map fun i => .opened (s.attempts + 1 + i)

/-- A connection that is there is handed out each time, and the engine hears nothing. -/
private theorem acquireMany_of_slot {r : RegistryName} {s : Session World Handle} {c : Nat}
    (hslot : (s.registry r).slot = some c) (count : Nat) :
    s.acquireMany engine r count = (s, List.replicate count (.ok c)) := by
  induction count with
  | zero => rfl
  | succ count ih => simp only [acquireMany, acquire_of_slot engine hslot, ih, List.replicate_succ]

/-- **Asking an empty registry often** gives an error for every attempt that fails, and then one
    connection for all. -/
theorem acquireMany_acquiredMany {r : RegistryName} {failures : Nat} (count : Nat)
    {s : Session World Handle} (hslot : (s.registry r).slot = none)
    (hfailures : OpensAfter engine (s.registry r).options failures s.world (s.attempts + 1)) :
    AcquiredMany failures count s (s.acquireMany engine r count).1
      (s.acquireMany engine r count).2 := by
  induction count generalizing s failures with
  | zero => exact ⟨⟨[], by simp, by simp [acquireMany]⟩, by simp [acquireMany]⟩
  | succ count ih =>
    generalize hworld : s.world = world at hfailures
    generalize hnumber : s.attempts + 1 = number at hfailures
    cases hfailures with
    | now hdone =>
      -- the first answer is the connection, and so are all others
      subst hworld hnumber
      obtain ⟨t, heq, hfilled, hlog⟩ := acquire_of_opensNext engine hslot ⟨_, hdone⟩
      simp only [acquireMany, heq, acquireMany_of_slot hfilled]
      exact ⟨⟨[], by simp, by simp [List.replicate_succ]⟩, by simp [hlog]⟩
    | later hfails hrest =>
      subst hworld hnumber
      have hnone : ¬ OpensNext engine r s := by
        rintro ⟨handle, hdone⟩
        exact hfails handle hdone
      obtain ⟨t, e, heq, hworld, hattempts, hconnections, hregistry, hlog⟩ :=
        acquire_of_not_opensNext engine hslot hnone
      rw [← hworld, ← hattempts, ← hregistry] at hrest
      rw [← hregistry] at hslot
      obtain ⟨⟨errors, hlength, hanswers⟩, hmore⟩ := ih hslot hrest
      simp only [acquireMany, heq]
      refine ⟨⟨e :: errors, ?_, ?_⟩, ?_⟩
      · rw [List.length_cons, hlength, Nat.succ_min_succ]
      · rw [hanswers, hconnections, Nat.succ_min_succ, Nat.succ_sub_succ]
        rfl
      · -- the attempts that follow are numbered behind this one
        rw [hmore, hlog, hattempts, Nat.succ_min_succ, List.range_succ_eq_map, List.append_assoc]
        simp [Function.comp_def, Nat.add_comm, Nat.add_left_comm]

/-! ### Whole programs -/

variable (engine) in
/-- The states in which a step of a program is done, those inside its scopes included, with
    what a registry was asked for so far. -/
inductive Reached (world : World) (registry : RegistryName → Options) (r : RegistryName) :
    List Request → Session World Handle → Prop where
  | start : Reached world registry r [] (start world registry)
  | perform {asked : List Request} {s : Session World Handle} (step : Step)
      (h : Reached world registry r asked s) :
      Reached world registry r (asked ++ requests engine r step s) (s.perform engine step).1
  | tell {asked : List Request} {s : Session World Handle}
      (h : Reached world registry r asked s) : Reached world registry r asked s.tell.1
  /-- a scope is entered -/
  | scope {asked : List Request} {s : Session World Handle} (name : String) (c : Nat)
      (h : Reached world registry r asked s) (hname : s.named? name = some c) :
      Reached world registry r asked (s.hold c)
  /-- a scope is entered in which the connection has another name too -/
  | within {asked : List Request} {s : Session World Handle} (name nickname : String) (c : Nat)
      (h : Reached world registry r asked s) (hname : s.named? name = some c) :
      Reached world registry r asked ((s.hold c).bind engine nickname c)

variable {world : World} {registry : RegistryName → Options} {r : RegistryName}
  {asked : List Request} {s : Session World Handle}

/-- The states after any program are reached with the requests of the program on record. -/
theorem Reached.runAll (h : Reached engine world registry r asked s) (steps : List Step) :
    Reached engine world registry r (asked ++ requestsInAll engine r steps s)
      (s.runAll engine steps).1 := by
  induction steps generalizing asked s with
  | nil =>
    rw [requestsInAll, List.append_nil]
    exact h
  | cons step rest ih =>
    simp only [requestsInAll, ← List.append_assoc]
    exact ih (h.perform step).tell

/-- A session with a record of the requests on the way is one that steps lead to. -/
theorem Reached.reachable (h : Reached engine world registry r asked s) :
    Reachable engine world registry s := by
  induction h with
  | start => exact .start
  | perform step _ ih => exact .perform _ step ih
  | tell _ ih => exact .tell _ ih
  | scope name c _ hname ih => exact .scope _ name c ih hname
  | within name nickname c _ hname ih => exact .within _ name nickname c ih hname

/-- In every state of a program a registry was asked for something so far. -/
theorem Reachable.reached (h : Reachable engine world registry s) (r : RegistryName) :
    ∃ asked, Reached engine world registry r asked s := by
  induction h with
  | start => exact ⟨[], .start⟩
  | perform s step _ ih =>
    obtain ⟨asked, h⟩ := ih
    exact ⟨_, h.perform step⟩
  | tell s _ ih =>
    obtain ⟨asked, h⟩ := ih
    exact ⟨asked, h.tell⟩
  | scope s name c _ hname ih =>
    obtain ⟨asked, h⟩ := ih
    exact ⟨asked, h.scope name c hname⟩
  | within s name nickname c _ hname ih =>
    obtain ⟨asked, h⟩ := ih
    exact ⟨asked, h.within name nickname c hname⟩

/-- What a registry keeps there follows from the record. -/
theorem Reached.follows (h : Reached engine world registry r asked s) : Follows r asked s := by
  induction h with
  | start => exact start_follows world registry r
  | perform step _ ih => exact perform_follows engine step ih
  | tell _ ih => exact ih.keep (tell_moves engine _) rfl
  | scope name c _ _ ih => exact ih.keep (hold_moves engine c _) rfl
  | within name nickname c _ _ ih =>
    have hentered := ih.keep (hold_moves engine c _) rfl
    exact hentered.keep (bind_moves engine nickname c _)
      (by rw [(bind_references engine nickname c _).registry])

/-- Whatever steps lead to, the open connections that a registry has opened are those it keeps. -/
theorem Reachable.registered (h : Reachable engine world registry s) : Registered s := by
  induction h with
  | start => exact start_registered world registry
  | perform s step h ih => exact (perform_changes engine step s).registered h.coherent ih
  | tell s _ ih => exact ih.refer s.names s.held s.log.length
  | scope s name c _ _ ih => exact ih.refer s.names (c :: s.held) s.told
  | within s name nickname c _ _ ih =>
    have hentered : Registered (s.hold c) := ih.refer s.names (c :: s.held) s.told
    exact hentered.bind engine nickname c

/-- **One shared connection.** Whatever state a program is in, and whatever a registry was
    asked for so far: the connection in its slot is the one open connection among those it
    has handed out, and belongs to registries; and whatever connection of registries is open
    is in a slot.  It has handed out the same connection twice if it was not shut down in
    between, and else another one.  Asked for its connection, it asks the engine if its slot
    is empty, and then once.  Asked so many times while its slot is empty, it answers with the
    failures of the engine and then with one connection. -/
theorem single_default (h : Reached engine world registry r asked s) :
    (∀ c, (s.registry r).slot = some c ↔ .got c ∈ asked ∧ s.isClosed c = false) ∧
    (∀ c, s.IsOpenShared c ↔ ∃ n, (s.registry n).slot = some c) ∧
    (∀ before between after c d,
      asked = before ++ .got c :: between ++ .got d :: after → (c = d ↔ .shutdown ∉ between)) ∧
    Acquired engine r s (s.acquire engine r).1 (s.acquire engine r).2 ∧
    (∀ failures count, (s.registry r).slot = none →
      OpensAfter engine (s.registry r).options failures s.world (s.attempts + 1) →
      AcquiredMany failures count s (s.acquireMany engine r count).1
        (s.acquireMany engine r count).2) := by
  -- what is in the slots is one invariant, what was asked and handed out another
  have hregistered : Registered s := h.reachable.registered
  have hfollows : Follows r asked s := h.follows
  refine ⟨fun c => ⟨fun hslot => ?_, fun hboth => hfollows.kept c hboth.1 hboth.2⟩,
    hregistered.isOpenShared_iff, fun before between after c d hasked => ?_,
    acquire_acquired h.reachable.coherent hregistered r,
    fun failures count hslot hfailures => acquireMany_acquiredMany count hslot hfailures⟩
  · have hhistory := hfollows.history
    rw [hslot] at hhistory
    exact ⟨hhistory.got_of_keeps, hregistered.isClosed_of_slot hslot⟩
  · have hhistory := hfollows.history
    rw [hasked] at hhistory
    exact hhistory.same_iff

namespace SharingTest

/-- Its first handle is refused, and it breaks down over its second. -/
def script : Script where
  name := "scripted"
  opens := [some (.fail (.reported .engineInit "refused")), some (.breakDown "boom")]
  closes := []
  statements := []

/-- Before anything is asked for. -/
def before : Session Unit ScriptedHandle := start () fun _ => .inMemory

/-- The shared connection is asked for three times and once more, and a user closes it; then
    the registry shuts down and is asked again. -/
def program : List Step :=
  [.acquireMany 3, .acquire .session "a", .close "a", .shutdown .session, .acquire .session "b"]

def after : Session Unit ScriptedHandle := (before.runAll script.engine program).1

/-- In the example two requests fail before one is answered, and a shutdown comes before another
    connection. -/
theorem requests_program :
    requestsInAll script.engine .session program before =
      [.missed, .missed, .got 0, .got 0, .shutdown, .got 1] := by
  decide +kernel

/-- So there is a record that ends with the session of the example. -/
theorem reached_after :
    Reached script.engine () (fun _ => .inMemory) .session
      [.missed, .missed, .got 0, .got 0, .shutdown, .got 1] after := by
  rw [← requests_program]
  exact Reached.start.runAll program

/-- The engine of the example opens a handle at the third attempt. -/
theorem opensAfter_two :
    OpensAfter script.engine (before.registry .session).options 2 before.world
      (before.attempts + 1) :=
  .later (by simp [script, Script.engine, Script.openHandle, before, start, Upset.outcome])
    (.later (by simp [script, Script.engine, Script.openHandle, before, start, Upset.outcome])
      (.now rfl))

end SharingTest

open SharingTest in
/-- Two failures and then one connection, which its user cannot close; after the shutdown
    another one is open. -/
theorem single_default_of_failing_opens :
    AcquiredMany 2 3 before (before.acquireMany script.engine .session 3).1
      (before.acquireMany script.engine .session 3).2 ∧
    requestsInAll script.engine .session program before =
      [.missed, .missed, .got 0, .got 0, .shutdown, .got 1] ∧
    (after.registry .session).slot = some 1 ∧ after.IsOpenShared 1 ∧
    after.isClosed 0 = true := by
  have hbefore : Reached script.engine () (fun _ => .inMemory) .session [] before := .start
  obtain ⟨-, -, -, -, hmany⟩ := single_default hbefore
  obtain ⟨hslot, hshared, hsame, -, -⟩ := single_default reached_after
  have hopen : after.isClosed 1 = false := by decide +kernel
  have hone : (after.registry .session).slot = some 1 := (hslot 1).mpr ⟨by decide, hopen⟩
  refine ⟨hmany 2 3 rfl opensAfter_two, requests_program, hone,
    (hshared 1).mpr ⟨.session, hone⟩, ?_⟩
  -- the shutdown lies between the two connections, so the first is not in the slot any more
  have hother : ¬ 0 = 1 := by
    rw [hsame [.missed, .missed, .got 0] [.shutdown] [] 0 1 rfl]
    simp
  by_contra hstill
  rw [Bool.not_eq_true] at hstill
  have hzero : (after.registry .session).slot = some 0 := (hslot 0).mpr ⟨by decide, hstill⟩
  exact hother (Option.some.inj (hzero.symm.trans hone))

end SqlClient.Session
