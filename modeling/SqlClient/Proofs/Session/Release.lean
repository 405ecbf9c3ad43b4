import SqlClient.Engine.Scripted
import SqlClient.Proofs.Session.Lifetimes

namespace SqlClient

namespace Session

/-!
# Every handle is released once

At the end of a program nothing is referred to any more, so nothing is open, and the life
of every handle is over: the log holds each handle's opening, its statements and its
closing, in this order and the last exactly once.

* `runLog` — the log of a whole run.
* `isClosed_finish` — at the end every connection is closed.
* `ReleasedOnce` — what the log says of a handle that was opened.
* `released_exactly_once` — it says so of each of them, whatever the program.
-/

variable {World Handle : Type} (engine : Engine World Handle)

/-- The log of a whole run: the program, the last names given up, the registries shut down. -/
def runLog (world : World) (registry : RegistryName → Options) (steps : List Step) :
    List Event :=
  ((runAll engine steps (start world registry)).1.finish engine).log

/-! ### The end of a program -/

/-- Giving names up one by one leaves the names that are not among them. -/
private theorem unbindAll_names (names : List String) (s : Session World Handle) :
    (s.unbindAll engine names).names = s.names.filter fun p => p.1 ∉ names := by
  induction names generalizing s with
  | nil => simp [unbindAll]
  | cons name rest ih =>
    show ((s.unbind engine name).unbindAll engine rest).names = _
    have hunbind : (s.unbind engine name).names = s.names.filter (·.1 ≠ name) :=
      (unbind_references engine name s).names
    rw [ih, hunbind, List.filter_filter]
    congr 1
    funext p
    by_cases h : p.1 = name <;> simp [h]

/-- It leaves the scopes alone. -/
private theorem unbindAll_held (names : List String) (s : Session World Handle) :
    (s.unbindAll engine names).held = s.held := by
  induction names generalizing s with
  | nil => rfl
  | cons name rest ih => exact (ih _).trans (unbind_references engine name s).held

/-- When all names are given up, no name is left. -/
private theorem unbindAll_names_eq_nil (s : Session World Handle) :
    (s.unbindAll engine (s.names.map (·.1))).names = [] := by
  rw [unbindAll_names, List.filter_eq_nil_iff]
  intro p hp
  have hmem : p.1 ∈ s.names.map (·.1) := List.mem_map_of_mem hp
  simpa using hmem

/-- At the end nothing is referred to: all names are given up, and all registries are shut
    down. -/
private theorem isReferenced_finish {s : Session World Handle} (hheld : s.held = []) (c : Nat) :
    (s.finish engine).isReferenced c = false := by
  have hfirst := shutdown_references engine .session (s.unbindAll engine (s.names.map (·.1)))
  have hlast := shutdown_references engine .process
    ((s.unbindAll engine (s.names.map (·.1))).shutdown engine .session).1
  rw [← Bool.not_eq_true, isReferenced_iff]
  rintro (⟨name, hname⟩ | hmem | ⟨r, hslot⟩)
  -- no name is left, no scope is open, and both slots have been emptied
  · have hnames : (s.finish engine).names = [] :=
      hlast.names.trans (hfirst.names.trans (unbindAll_names_eq_nil engine s))
    rw [hnames] at hname
    exact absurd hname List.not_mem_nil
  · have hnone : (s.finish engine).held = [] :=
      hlast.held.trans (hfirst.held.trans ((unbindAll_held engine _ s).trans hheld))
    rw [hnone] at hmem
    exact absurd hmem List.not_mem_nil
  · have hslot' : (((s.unbindAll engine (s.names.map (·.1))).shutdown engine .session).1.setSlot
        .process none |>.registry r).slot = some c := by
      rw [← hlast.registry]
      exact hslot
    cases r with
    | process =>
      rw [slot_setSlot_self] at hslot'
      exact absurd hslot' (by simp)
    | session =>
      rw [slot_setSlot_of_ne (by simp), hfirst.registry, slot_setSlot_self] at hslot'
      exact absurd hslot' (by simp)

/-- At the end every connection is closed, as nothing refers to it any more. -/
theorem isClosed_finish {s : Session World Handle} (hs : Coherent s) (hheld : s.held = [])
    (c : Nat) : (s.finish engine).isClosed c = true := by
  have hcoherent : Coherent (s.finish engine) := (finish_changes engine s).coherent hs
  exact hcoherent.isClosed (isReferenced_finish engine hheld c)

/-- At the end of a run every handle that was opened has had its whole life, and none is in
    use. -/
theorem runLog_lives {opens : Nat → Prop} (hengine : OpensBy engine opens) (world : World)
    (registry : RegistryName → Options) (steps : List Step) (k : Nat) :
    callsTo k (runLog engine world registry steps) = [] ∨
    ¬ opens k ∧ callsTo k (runLog engine world registry steps) = [.opened k] ∨
    opens k ∧ IsWholeLife k (callsTo k (runLog engine world registry steps)) := by
  have hrun := runAll_changes engine steps (start world registry)
  have hcoherent : Coherent (runAll engine steps (start world registry)).1 :=
    hrun.coherent (start_coherent world registry)
  -- a program leaves all scopes that it enters
  have hheld : (runAll engine steps (start world registry)).1.held = [] :=
    runAll_held engine steps _
  have hwhole : Changes engine (start world registry)
      ((runAll engine steps (start world registry)).1.finish engine) :=
    hrun.trans (finish_changes engine _)
  have hstage := hwhole.stage hengine (start_stage opens world registry) k
  rcases hstage.of_all_closed (isClosed_finish engine hcoherent hheld) with ⟨_, h⟩ | h | h
  · exact .inl h
  · exact .inr (.inl h)
  · exact .inr (.inr h)

/-! ### What the log says of a handle -/

/-- The handle was closed once, after it was opened, and nothing went to it afterwards. -/
structure ReleasedOnce (k : Nat) (log : List Event) : Prop where
  once : log.count (.closed k) = 1
  last : ∃ before after, log = before ++ .closed k :: after ∧ .opened k ∈ before ∧
    ∀ e ∈ after, e.handle ≠ k

/-- The calls to a handle are those in the log that went to it. -/
theorem mem_callsTo {k : Nat} {e : Event} {log : List Event} :
    e ∈ callsTo k log ↔ e ∈ log ∧ e.handle = k := by
  simp [callsTo]

/-- A handle whose life is over was opened and released, each of them once. -/
theorem ReleasedOnce.of_isWholeLife {k : Nat} {log : List Event}
    (h : IsWholeLife k (callsTo k log)) : ReleasedOnce k log := by
  obtain ⟨asked, hasked, hcalls⟩ := h
  constructor
  -- no statement is a closing, so the closing at the end is the only one
  · have hnone : asked.count (.closed k) = 0 := by
      refine List.count_eq_zero.mpr fun hmem => ?_
      exact absurd (hasked _ hmem) (by simp [Event.isStatement])
    have hcount : (callsTo k log).count (.closed k) = log.count (.closed k) :=
      List.count_filter (by simp)
    rw [← hcount, hcalls]
    simp [hnone]
  · -- cut the log at the last call to the handle
    obtain ⟨first, rest, rfl, hfirst, hrest⟩ := List.filter_eq_append_iff.mp hcalls
    obtain ⟨between, after, rfl, -, -, hafter⟩ := List.filter_eq_cons_iff.mp hrest
    refine ⟨first ++ between, after, by simp, ?_, fun e he => ?_⟩
    · have hopened : Event.opened k ∈ callsTo k first := by
        rw [callsTo, hfirst]
        exact List.mem_cons_self
      exact List.mem_append_left _ (mem_callsTo.mp hopened).1
    · simpa using List.filter_eq_nil_iff.mp hafter e he

end Session

/-- An attempt to open a handle that the script lets go well. -/
def Script.Opens (script : Script) (number : Nat) : Prop :=
  ∃ handle, script.openHandle number = .done handle

namespace Session

/-- A scripted engine opens those handles that its script does not refuse. -/
theorem script_opensBy (script : Script) : OpensBy script.engine script.Opens :=
  fun _ _ _ => Iff.rfl

/-- **Released exactly once.** Whatever the engine does by its script, and whatever the
    program, a handle that was opened is closed once, after it was opened, and nothing goes
    to it afterwards; one that could not be opened is only ever asked to open; and no other
    is spoken to. -/
theorem released_exactly_once (script : Script) (registry : RegistryName → Options)
    (steps : List Step) (k : Nat) :
    let log := runLog script.engine () registry steps
    (Event.opened k ∈ log → script.Opens k → ReleasedOnce k log) ∧
    (¬ script.Opens k → ∀ e ∈ log, e.handle = k → e = .opened k) ∧
    (Event.opened k ∉ log → ∀ e ∈ log, e.handle ≠ k) := by
  intro log
  rcases runLog_lives script.engine (script_opensBy script) () registry steps k with
    hnone | ⟨hopens, hmissed⟩ | ⟨hopens, hlife⟩
  · -- no call at all: the attempt was not made
    have hsilent : ∀ e ∈ log, e.handle ≠ k := by
      intro e he hk
      have hmem : e ∈ callsTo k log := mem_callsTo.mpr ⟨he, hk⟩
      rw [hnone] at hmem
      exact absurd hmem List.not_mem_nil
    exact ⟨fun hmem _ => absurd rfl (hsilent _ hmem),
      fun _ e he hk => absurd hk (hsilent e he), fun _ => hsilent⟩
  · -- the attempt was made and missed, and there was no call but that
    have hone : ∀ e ∈ log, e.handle = k → e = .opened k := by
      intro e he hk
      have hmem : e ∈ callsTo k log := mem_callsTo.mpr ⟨he, hk⟩
      rw [hmissed] at hmem
      exact List.mem_singleton.mp hmem
    refine ⟨fun _ h => absurd h hopens, fun _ => hone, fun hout e he hk => ?_⟩
    exact hout (hone e he hk ▸ he)
  · -- a whole life begins with the handle being opened, and ends with its one release
    have hmem : Event.opened k ∈ log := by
      obtain ⟨asked, _, hcalls⟩ := hlife
      have hopened : Event.opened k ∈ callsTo k log := by
        rw [hcalls]
        exact List.mem_cons_self
      exact (mem_callsTo.mp hopened).1
    exact ⟨fun _ _ => .of_isWholeLife hlife, fun h => absurd hopens h,
      fun hout => absurd hmem hout⟩

namespace ReleaseTest

/-- Its first handle opens, breaks down over a statement and does not close cleanly; its
    second does not open. -/
def script : Script where
  name := "scripted"
  opens := [none, some (.fail (.reported .engineInit "refused"))]
  closes := [some (.reported .execution "stuck")]
  statements := [("boom", .upset (.breakDown "boom"))]

/-- A scope that breaks off after a statement, and an open that fails. -/
def program : List Step :=
  [.connect "a" .inMemory, .scope "a" [.execute (some "a") "boom" []] .panic,
    .connect "b" .inMemory]

/-- In the log of the example the first handle is opened, asked and closed, and the second attempt
    fails. -/
theorem runLog_program :
    runLog script.engine () (fun _ => .inMemory) program =
      [.opened 1, .submitted 1 "boom", .closed 1, .opened 2] := by
  decide +kernel

/-- The script of the example opens the first handle. -/
theorem opens_one : script.Opens 1 := ⟨⟨1, 0⟩, rfl⟩

/-- The script of the example refuses the second handle. -/
theorem not_opens_two : ¬ script.Opens 2 := by
  rintro ⟨handle, h⟩
  exact absurd h (by simp [Script.openHandle, script, Upset.outcome])

end ReleaseTest

open ReleaseTest in
/-- The handle of a scope that breaks off, one that was refused, and one nobody asked for. -/
theorem released_exactly_once_of_panic :
    let log := runLog script.engine () (fun _ => .inMemory) program
    (Event.opened 1 ∈ log ∧ script.Opens 1 ∧ ReleasedOnce 1 log) ∧
    (¬ script.Opens 2 ∧ ∀ e ∈ log, e.handle = 2 → e = .opened 2) ∧
    (Event.opened 3 ∉ log ∧ ∀ e ∈ log, e.handle ≠ 3) := by
  intro log
  have hlog : log = [.opened 1, .submitted 1 "boom", .closed 1, .opened 2] := runLog_program
  have hone : Event.opened 1 ∈ log := by simp [hlog]
  have hthree : Event.opened 3 ∉ log := by simp [hlog]
  exact ⟨⟨hone, opens_one,
      (released_exactly_once script (fun _ => .inMemory) program 1).1 hone opens_one⟩,
    ⟨not_opens_two,
      (released_exactly_once script (fun _ => .inMemory) program 2).2.1 not_opens_two⟩,
    ⟨hthree, (released_exactly_once script (fun _ => .inMemory) program 3).2.2 hthree⟩⟩

end Session

end SqlClient
