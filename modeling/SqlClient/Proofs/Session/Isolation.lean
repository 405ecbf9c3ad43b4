import SqlClient.Proofs.Session.Users

namespace SqlClient

/-!
# Users are isolated from each other

Users with connections of their own, whose handles share nothing, can work in one session in
any order: each of them hears what it would hear if it were alone.  Only the message of a
breakdown gives the others away, by the number of the task, which all of them count on.

* `Step.UsesOnly` — the steps of a user.
* `Answer.mute` — an answer without what was logged for it, and without the numbers of tasks.
* `Session.perform_agrees`, … — a user does the same in sessions that look the same to it.
* `Session.users_isolated`, `not_isolated_of_breakdown` — what users hear of each other.
-/

namespace Step

mutual

/-- A step uses these names only, and no registry; so do the steps inside it. -/
def UsesOnly (names : Set String) : Step → Prop
  | .clone source name => source ∈ names ∧ name ∈ names
  | .drop name => name ∈ names
  | .execute (some name) _ _ => name ∈ names
  | .batch name _ => name ∈ names
  | .close name => name ∈ names
  | .isClosed name => name ∈ names
  | .isShared name => name ∈ names
  | .engineName name => name ∈ names
  | .number name => name ∈ names
  | .describe name => name ∈ names
  | .sameHandle first second => first ∈ names ∧ second ∈ names
  | .scope name steps _ => name ∈ names ∧ AllUseOnly names steps
  | .within name nickname steps _ => name ∈ names ∧ nickname ∈ names ∧ AllUseOnly names steps
  | .cancelled name _ => name ∈ names
  | _ => False

/-- All steps of a program use these names only. -/
def AllUseOnly (names : Set String) : List Step → Prop
  | [] => True
  | step :: rest => UsesOnly names step ∧ AllUseOnly names rest

end

end Step

namespace Answer

mutual

/-- An answer without what was logged for inner steps, and without the numbers of tasks that
    broke down. -/
def mute : Answer → Answer
  | refused (.error e) => refused (.error e.unnumbered)
  | numbers ids => numbers (ids.map (Except.mapError Error.unnumbered))
  | scope id replies outcome => scope id (muteAll replies) outcome
  | within replies error => within (muteAll replies) (error.map Error.unnumbered)
  | a => a

def muteAll : List (Answer × List Event) → List (Answer × List Event)
  | [] => []
  | reply :: rest => muteReply reply :: muteAll rest

def muteReply : Answer × List Event → Answer × List Event
  | (a, _) => (mute a, [])

end

/-- Of every reply only the answer is left, without what it tells of other users. -/
theorem muteAll_eq_map (replies : List Reply) :
    muteAll replies = (replies.map fun r => r.1.mute).map fun a => (a, []) := by
  induction replies with
  | nil => rfl
  | cons r rest ih =>
    obtain ⟨a, events⟩ := r
    rw [muteAll, ih]
    rfl

/-- A muted answer still tells whether the step ended in an error. -/
theorem error?_mute (a : Answer) : a.mute.error? = a.error?.map Error.unnumbered := by
  cases a with
  | refused r => cases r <;> rfl
  | _ => rfl

end Answer

namespace Session

variable {World Handle : Type} {own : Handle → Prop} {u : User}
  {s t : Session World Handle} {engine : Engine World Handle}

/-! ### What a user hears -/

/-- The answers of a program, without the log and the numbers of tasks. -/
def answers (replies : List Reply) : List Answer := replies.map fun r => r.1.mute

/-- What is heard of a scope are the answers to the steps inside it, and how it was left. -/
theorem mute_perform_scope {name : String} {c : Nat} (hc : s.named? name = some c)
    (steps : List Step) (leave : Leave) :
    (s.perform engine (.scope name steps leave)).2.mute =
      .scope (s.idOf c) ((answers ((s.hold c).runAll engine steps).2).map (·, []))
        (((s.hold c).runAll engine steps).1.leaveScope engine c leave).2 := by
  simp only [perform, hc, Answer.mute, Answer.muteAll_eq_map]
  rfl

/-- What is heard of a call with a scope of its own. -/
theorem mute_perform_within {name nickname : String} {c : Nat} (hc : s.named? name = some c)
    (steps : List Step) (result : Option Error) :
    (s.perform engine (.within name nickname steps result)).2.mute =
      let body := ((s.hold c).bind engine nickname c).runUntilError engine steps
      .within ((answers body.2.1).map (·, []))
        ((firstError body.2.2 result (body.1.close engine c).2).map Error.unnumbered) := by
  simp only [perform, hc, exitScope_eq, Answer.mute, Answer.muteAll_eq_map]
  rfl

/-- The number of a task is left out of the first error by leaving it out of each. -/
private theorem map_firstError (f : Error → Error) (body given : Option Error)
    (released : Except Error Unit) :
    (firstError body given released).map f =
      firstError (body.map f) (given.map f) (released.mapError f) := by
  cases body with
  | some e => rfl
  | none =>
    cases given with
    | some e => rfl
    | none => cases released <;> rfl

/-- What is made of answers that agree agrees too. -/
theorem Agrees.map {α β : Type} {x y : Session World Handle × α} (h : Agrees own u s x y)
    (f : α → β) : Agrees own u s (Prod.map id f x) (Prod.map id f y) :=
  ⟨congrArg f h.answer, h.kept⟩

/-- A step on a named connection, which the name stands for in both sessions or in neither. -/
theorem Together.onNamed (h : Together own u s t) {name : String} (hname : name ∈ u.names)
    {f g : Nat → Session World Handle × Answer}
    (hfg : Agrees own u s (Prod.map id Answer.mute (f u.connection))
      (Prod.map id Answer.mute (g u.connection))) :
    Agrees own u s (Prod.map id Answer.mute (s.onNamed name f))
      (Prod.map id Answer.mute (t.onNamed name g)) := by
  unfold Session.onNamed
  rcases h.named?_cases hname with ⟨hs, ht⟩ | ⟨hs, ht⟩
  · simp only [hs, ht]
    exact ⟨rfl, h.kept⟩
  · simp only [hs, ht]
    exact hfg

/-- Sessions that are alike for a user agree on whether its connection is closed. -/
theorem Alike.isClosed (h : Alike u s t) :
    s.isClosed u.connection = t.isClosed u.connection := by
  simp only [Session.isClosed, h.handle?]

/-- The connection of a user has one id in both sessions, and keeps it. -/
theorem Alike.idOf (h : Alike u s t) : s.idOf u.connection = t.idOf u.connection := by
  simp only [Session.idOf, h.connection]

/-- They describe its connection in the same words: its id, its engine, its owner, and whether it
    is closed. -/
theorem Alike.describe (h : Alike u s t) :
    s.describe engine u.connection = t.describe engine u.connection := by
  unfold Session.describe
  rw [h.idOf, h.isShared, h.isClosed]

/-- What is heard of a statement depends on its result without the number of the task only. -/
theorem mute_rowsResult (x : Session World Handle × Except Error ResultSet) :
    Prod.map id Answer.mute (Session.rowsResult x) =
      Prod.map id Answer.mute
        (Session.rowsResult (Prod.map id (Except.mapError Error.unnumbered) x)) := by
  obtain ⟨x, e | rows⟩ := x
  · cases e <;> rfl
  · rfl

/-- An error that is muted and one that has lost its number make the same answer. -/
private theorem mute_ofUnit (result : Except Error Unit) :
    (Answer.ofUnit result).mute =
      (Answer.ofUnit (result.mapError Error.unnumbered)).mute := by
  rcases result with e | u
  · cases e <;> rfl
  · rfl

/-- Results that agree but for the numbers of tasks are the same answers, once these are mute. -/
theorem Agrees.rowsResult {x y : Session World Handle × Except Error ResultSet}
    (h : Agrees own u s (Prod.map id (Except.mapError Error.unnumbered) x)
      (Prod.map id (Except.mapError Error.unnumbered) y)) :
    Agrees own u s (Prod.map id Answer.mute (Session.rowsResult x))
      (Prod.map id Answer.mute (Session.rowsResult y)) := by
  rw [mute_rowsResult x, mute_rowsResult y]
  obtain ⟨x, r⟩ := x
  obtain ⟨y, r'⟩ := y
  obtain ⟨hanswer, hkept⟩ := h
  simp only [Prod.map] at hanswer hkept ⊢
  rw [hanswer]
  cases r'.mapError Error.unnumbered with
  | error e => exact ⟨rfl, hkept⟩
  | ok rows => exact ⟨rfl, hkept⟩

section Steps

variable (hengine : engine.Detached own)

include hengine

/-- A call that is cancelled closes the connection of the user in both sessions, if it was polled
    at all. -/
theorem Together.cancel (h : Together own u s t) (polled : Bool) :
    Kept own u s (s.cancel engine u.connection polled) (t.cancel engine u.connection polled) := by
  cases polled with
  | false => exact h.kept
  | true => exact (h.close hengine).kept

/-- A scope of the user is left in the same way in both sessions, with the same answer. -/
theorem Together.leaveScope (h : Together own u s t) (leave : Leave) :
    Agrees own u s (s.leaveScope engine u.connection leave)
      (t.leaveScope engine u.connection leave) := by
  obtain ⟨hresult, hkept⟩ := h.close hengine
  cases leave with
  | exit =>
    rw [Session.leaveScope, Session.leaveScope, exitScope_eq, exitScope_eq]
    rcases hs : s.close engine u.connection with ⟨s', result⟩
    rcases ht : t.close engine u.connection with ⟨t', result'⟩
    rw [hs, ht] at hresult hkept
    obtain rfl : result = result' := hresult
    cases result with
    | error e => exact ⟨rfl, hkept⟩
    | ok _ => exact ⟨rfl, hkept⟩
  | drop => exact ⟨rfl, hkept⟩
  | panic => exact ⟨rfl, hkept⟩

/-- The user's scope is left after its connection was closed. -/
theorem Together.leave (h : Together own u s t) {rest : List Nat}
    (hheld : s.held = u.connection :: rest) :
    Kept own u s ((s.close engine u.connection).1.unhold engine)
      ((t.close engine u.connection).1.unhold engine) := by
  have hclosed := (h.close hengine).kept
  refine hclosed.trans (hclosed.together.unhold hengine (?_ : _ = u.connection :: rest))
  rw [(close_references engine u.connection s).held, hheld]

end Steps

mutual

/-- **A user does the same in sessions that look the same to it**, and leaves everything else
    alone. -/
theorem perform_agrees (hengine : engine.Detached own) (step : Step)
    (hstep : step.UsesOnly u.names) {s t : Session World Handle} (h : Together own u s t) :
    Agrees own u s (Prod.map id Answer.mute (s.perform engine step))
      (Prod.map id Answer.mute (t.perform engine step)) := by
  cases step with
  | clone source name => exact h.onNamed hstep.1 ⟨rfl, h.bind hengine hstep.2⟩
  | drop name => exact h.onNamed hstep ⟨rfl, h.unbind hengine hstep⟩
  | execute target statement params =>
    cases target with
    | none => exact hstep.elim
    | some name => exact h.onNamed hstep (h.execute hengine statement params).rowsResult
  | batch name sql =>
    refine h.onNamed hstep ?_
    have hbatch := (h.executeBatch hengine sql).map fun r => (Answer.ofUnit r).mute
    simpa only [Prod.map, id_eq, ← mute_ofUnit] using hbatch
  | close name =>
    exact h.onNamed hstep ((h.close hengine).map fun r => (Answer.ofUnit r).mute)
  | isClosed name =>
    exact h.onNamed hstep ⟨congrArg (Answer.mute ∘ Answer.flag) h.alike.isClosed, h.kept⟩
  | isShared name =>
    exact h.onNamed hstep ⟨congrArg (Answer.mute ∘ Answer.flag) h.alike.isShared, h.kept⟩
  | engineName name => exact h.onNamed hstep ⟨rfl, h.kept⟩
  | number name =>
    exact h.onNamed hstep ⟨congrArg (Answer.mute ∘ Answer.number) h.alike.idOf, h.kept⟩
  | describe name =>
    exact h.onNamed hstep ⟨congrArg (Answer.mute ∘ Answer.text) h.alike.describe, h.kept⟩
  | sameHandle first second =>
    exact h.onNamed hstep.1 (h.onNamed hstep.2 ⟨rfl, h.kept⟩)
  | cancelled name polled => exact h.onNamed hstep ⟨rfl, h.cancel hengine polled⟩
  | scope name steps leave =>
    rcases h.named?_cases hstep.1 with ⟨hs, ht⟩ | ⟨hs, ht⟩
    · simp only [perform, hs, ht]
      exact ⟨rfl, h.kept⟩
    · -- one part after the other keeps the two sessions alike: entering, the steps, leaving
      have hentered := h.hold u.connection
      have hbody := runAll_agrees hengine steps hstep.2 hentered.together
      have hleft := hbody.kept.together.leaveScope hengine leave
      have hheld : ((s.hold u.connection).runAll engine steps).1.held =
          u.connection :: s.held := runAll_held engine steps _
      have hgone := hbody.kept.together.leave hengine hheld
      -- what is answered in both sessions, then what is left of them
      refine ⟨?_, ?_⟩
      · have hreplies : answers ((s.hold u.connection).runAll engine steps).2 =
            answers ((t.hold u.connection).runAll engine steps).2 := hbody.answer
        show (s.perform engine (.scope name steps leave)).2.mute =
          (t.perform engine (.scope name steps leave)).2.mute
        rw [mute_perform_scope hs, mute_perform_scope ht, hreplies, h.alike.idOf]
        exact congrArg _ hleft.answer
      · show Kept own u s (s.perform engine (.scope name steps leave)).1
          (t.perform engine (.scope name steps leave)).1
        rw [perform_scope_fst engine hs, perform_scope_fst engine ht]
        exact hentered.trans (hbody.kept.trans hgone)
  | within name nickname steps result =>
    rcases h.named?_cases hstep.1 with ⟨hs, ht⟩ | ⟨hs, ht⟩
    · simp only [perform, hs, ht]
      exact ⟨rfl, h.kept⟩
    · have hheld := h.hold u.connection
      have hentered := hheld.trans (hheld.together.bind hengine hstep.2.1)
      have hbody := runUntilError_agrees hengine steps hstep.2.2 hentered.together
      have hclosed := hbody.kept.together.close hengine
      have hinside : (((s.hold u.connection).bind engine nickname u.connection).runUntilError
          engine steps).1.held = u.connection :: s.held :=
        (runUntilError_held engine steps _).trans (bind_references engine nickname _ _).held
      have hgone := hbody.kept.together.leave hengine hinside
      refine ⟨?_, ?_⟩
      · obtain ⟨hreplies, herror⟩ := Prod.mk.inj hbody.answer
        have hreleased := hclosed.answer
        simp only [Prod.map_fst, id_eq] at hreleased herror
        show (s.perform engine (.within name nickname steps result)).2.mute =
          (t.perform engine (.within name nickname steps result)).2.mute
        rw [mute_perform_within hs, mute_perform_within ht]
        simp only [map_firstError, hreplies, herror, hreleased]
      · show Kept own u s (s.perform engine (.within name nickname steps result)).1
          (t.perform engine (.within name nickname steps result)).1
        rw [perform_within_fst engine hs, perform_within_fst engine ht]
        exact hentered.trans (hbody.kept.trans hgone)
  | _ => exact hstep.elim

/-- All steps of a program of the user get answers that agree, and leave sessions that are
    alike. -/
theorem runAll_agrees (hengine : engine.Detached own) (steps : List Step)
    (hsteps : Step.AllUseOnly u.names steps) {s t : Session World Handle}
    (h : Together own u s t) :
    Agrees own u s (Prod.map id answers (s.runAll engine steps))
      (Prod.map id answers (t.runAll engine steps)) := by
  cases steps with
  | nil => exact ⟨rfl, h.kept⟩
  | cons step rest =>
    have hfirst := perform_agrees hengine step hsteps.1 h
    have htold := hfirst.kept.together.tell
    have hrest := runAll_agrees hengine rest hsteps.2 htold.together
    refine ⟨?_, hfirst.kept.trans (htold.trans hrest.kept)⟩
    exact congrArg₂ List.cons hfirst.answer hrest.answer

/-- So it does with the steps up to the first error. -/
theorem runUntilError_agrees (hengine : engine.Detached own) (steps : List Step)
    (hsteps : Step.AllUseOnly u.names steps) {s t : Session World Handle}
    (h : Together own u s t) :
    Agrees own u s
      (Prod.map id (Prod.map answers (Option.map Error.unnumbered))
        (s.runUntilError engine steps))
      (Prod.map id (Prod.map answers (Option.map Error.unnumbered))
        (t.runUntilError engine steps)) := by
  cases steps with
  | nil => exact ⟨rfl, h.kept⟩
  | cons step rest =>
    have hfirst := perform_agrees hengine step hsteps.1 h
    have htold := hfirst.kept.together.tell
    have hrest := runUntilError_agrees hengine rest hsteps.2 htold.together
    -- whether the step ends in an error is part of what is heard
    have hanswer : (s.perform engine step).2.mute = (t.perform engine step).2.mute :=
      hfirst.answer
    have herror : (s.perform engine step).2.error?.map Error.unnumbered =
        (t.perform engine step).2.error?.map Error.unnumbered := by
      rw [← Answer.error?_mute, hanswer, Answer.error?_mute]
    cases hs : (s.perform engine step).2.error? with
    | some e =>
      rw [hs] at herror
      obtain ⟨e', ht, he⟩ := Option.map_eq_some_iff.mp herror.symm
      simp only [runUntilError, hs, ht]
      refine ⟨?_, hfirst.kept.trans htold⟩
      exact congrArg₂ (fun a e => ([a], some e)) hanswer he.symm
    | none =>
      rw [hs] at herror
      have ht : (t.perform engine step).2.error? = none := Option.map_eq_none_iff.mp herror.symm
      simp only [runUntilError, hs, ht]
      refine ⟨?_, hfirst.kept.trans (htold.trans hrest.kept)⟩
      obtain ⟨hreplies, hended⟩ := Prod.mk.inj hrest.answer
      exact Prod.ext (congrArg₂ List.cons hanswer hreplies) hended

end

/-! ### Many users -/

section Interleaving

variable {ι : Type} [DecidableEq ι] {users : ι → User}

/-- The steps of one user among the steps of all, in order. -/
def stepsOf (i : ι) (steps : List (ι × Step)) : List Step :=
  (steps.filter (·.1 = i)).map (·.2)

/-- The replies to the steps of one user among the replies to all. -/
def repliesTo (i : ι) (steps : List (ι × Step)) (replies : List Reply) : List Reply :=
  ((steps.zip replies).filter (·.1.1 = i)).map (·.2)

/-- A step of the user is the first of its steps. -/
private theorem stepsOf_cons_self (i : ι) (step : Step) (rest : List (ι × Step)) :
    stepsOf i ((i, step) :: rest) = step :: stepsOf i rest := by
  simp [stepsOf]

/-- A step of another user is none of its steps. -/
private theorem stepsOf_cons_of_ne {i j : ι} (h : j ≠ i) (step : Step) (rest : List (ι × Step)) :
    stepsOf i ((j, step) :: rest) = stepsOf i rest := by
  simp [stepsOf, h]

/-- The reply to a step of the user is the first of its replies. -/
private theorem repliesTo_cons_self (i : ι) (step : Step) (rest : List (ι × Step)) (reply : Reply)
    (replies : List Reply) :
    repliesTo i ((i, step) :: rest) (reply :: replies) = reply :: repliesTo i rest replies := by
  simp [repliesTo]

/-- The reply to a step of another user is none of its replies. -/
private theorem repliesTo_cons_of_ne {i j : ι} (h : j ≠ i) (step : Step) (rest : List (ι × Step))
    (reply : Reply) (replies : List Reply) :
    repliesTo i ((j, step) :: rest) (reply :: replies) = repliesTo i rest replies := by
  simp [repliesTo, h]

/-- A step of one user leaves a session in which the others find their own connections, handles
    and names. -/
theorem perform_hosts (hengine : engine.Detached own)
    (hapart : ∀ i j, i ≠ j → (users i).Apart (users j)) {i : ι} {step : Step}
    (hstep : step.UsesOnly (users i).names) (hs : ∀ j, Hosts own (users j) s) :
    Spares (users i) s (s.perform engine step).1.tell.1 ∧
      ∀ j, Hosts own (users j) (s.perform engine step).1.tell.1 := by
  have hself : Together own (users i) s s := ⟨hs i, hs i, .refl _ s⟩
  have hstepped := (perform_agrees hengine step hstep hself).kept
  have hkept := hstepped.trans hstepped.together.tell
  refine ⟨hkept.spares, fun j => ?_⟩
  by_cases hj : j = i
  · rw [hj]
    exact hkept.together.here
  · exact hkept.spares.hosts hkept.together.here.sorted (hapart j i hj) (hs j)

/-- Among the steps of all users, the steps of one go as they do without the others. -/
theorem interleaved_agrees (hengine : engine.Detached own)
    (hapart : ∀ i j, i ≠ j → (users i).Apart (users j)) (i : ι) (steps : List (ι × Step))
    (hsteps : ∀ p ∈ steps, p.2.UsesOnly (users p.1).names) (hs : ∀ j, Hosts own (users j) s)
    (h : Together own (users i) s t) :
    answers (repliesTo i steps (s.runAll engine (steps.map (·.2))).2) =
      answers (t.runAll engine (stepsOf i steps)).2 ∧
    Together own (users i) (s.runAll engine (steps.map (·.2))).1
      (t.runAll engine (stepsOf i steps)).1 := by
  induction steps generalizing s t with
  | nil => exact ⟨rfl, h⟩
  | cons p rest ih =>
    obtain ⟨j, step⟩ := p
    have hstep : step.UsesOnly (users j).names := hsteps (j, step) List.mem_cons_self
    have hrest : ∀ p ∈ rest, p.2.UsesOnly (users p.1).names := fun p hp =>
      hsteps p (List.mem_cons_of_mem _ hp)
    obtain ⟨hspares, hs'⟩ := perform_hosts hengine hapart hstep hs
    by_cases hj : j = i
    · subst hj
      -- a step of this user is done in both runs
      have hagrees := perform_agrees hengine step hstep h
      obtain ⟨hanswers, htogether⟩ := ih hrest hs' hagrees.kept.together.tell.together
      rw [stepsOf_cons_self]
      simp only [List.map_cons, runAll, repliesTo_cons_self]
      exact ⟨congrArg₂ List.cons hagrees.answer hanswers, htogether⟩
    · -- the others are not noticed
      have halike : Alike (users i) (s.perform engine step).1.tell.1 t :=
        hspares.alike (perform_held engine step s) (hapart i j (Ne.symm hj)) (hs j) (hs' j) h.alike
      obtain ⟨hanswers, htogether⟩ := ih hrest hs' ⟨hs' i, h.there, halike⟩
      rw [stepsOf_cons_of_ne hj]
      simp only [List.map_cons, runAll, repliesTo_cons_of_ne hj]
      exact ⟨hanswers, htogether⟩

end Interleaving

/-- **Users are isolated from each other.** Take an engine some of whose handles share nothing;
    with a scripted engine those are all handles, and with a database library they are those of
    databases in memory.  Let users have connections, handles of the kind and names of their own,
    and let them do steps in any order.  Then each of them gets the answers that it gets if it
    does its steps alone, the log and the numbers of tasks aside, and the calls to its handle are
    the same too. -/
theorem users_isolated :
    (∀ script : Script, script.engine.Detached fun _ => True) ∧
    ∀ {World Handle ι : Type} [DecidableEq ι] (engine : Engine World Handle)
      (own : Handle → Prop) (users : ι → User) (s : Session World Handle)
      (steps : List (ι × Step)),
      engine.Detached own → (∀ i j, i ≠ j → (users i).Apart (users j)) →
      (∀ i, Hosts own (users i) s) → (∀ p ∈ steps, p.2.UsesOnly (users p.1).names) →
      ∀ i,
        let together := s.runAll engine (steps.map (·.2))
        let alone := s.runAll engine (stepsOf i steps)
        answers (repliesTo i steps together.2) = answers alone.2 ∧
        callsTo (users i).number together.1.log = callsTo (users i).number alone.1.log := by
  refine ⟨Script.engine_detached, ?_⟩
  intro World Handle ι _ engine own users s steps hengine hapart hs hsteps i
  -- both runs begin in the same session, which looks like itself to everybody
  have hself : Together own (users i) s s := ⟨hs i, hs i, .refl _ s⟩
  obtain ⟨hanswers, htogether⟩ := interleaved_agrees hengine hapart i steps hsteps hs hself
  exact ⟨hanswers, htogether.alike.calls⟩

namespace IsolationTest

/-- An engine that breaks down over one statement. -/
def script : Script where
  name := "scripted"
  opens := []
  closes := []
  statements := [("boom", .upset (.breakDown "bang"))]

/-- Two connections, each under a name. -/
def two {World Handle : Type} (engine : Engine World Handle) (world : World) :
    Session World Handle :=
  ((start world fun _ => .inMemory).runAll engine
    [.connect "a" .inMemory, .connect "b" .inMemory]).1

/-- The users of the two connections. -/
def users : Bool → User
  | true => ⟨0, 1, {"a", "a2"}⟩
  | false => ⟨1, 2, {"b"}⟩

/-- The two users have different connections, different handles and no name in common. -/
theorem users_apart (i j : Bool) (hij : i ≠ j) : (users i).Apart (users j) := by
  cases i <;> cases j
  · exact absurd rfl hij
  · exact ⟨by decide, by decide, by simp [users]⟩
  · exact ⟨by decide, by decide, by simp [users]⟩
  · exact absurd rfl hij

/-- Whatever the engine is, if it opens two handles of the kind, they are those of the users. -/
theorem two_hosts {World Handle : Type} {engine : Engine World Handle} {own : Handle → Prop}
    {world world' world'' : World} {first second : Handle}
    (hfirst : engine.openHandle world 1 .inMemory = (world', .done first)) (hown : own first)
    (hsecond : engine.openHandle world' 2 .inMemory = (world'', .done second))
    (hown' : own second) (i : Bool) : Hosts own (users i) (two engine world) := by
  -- the two steps are carried out here, as far as the engine is not asked
  have horder : ¬ "b" < "a" := by decide +kernel
  have hnames : (two engine world).names = [("a", 0), ("b", 1)] := by
    simp [two, runAll, perform, connect, start, spawn, note, hfirst, hsecond, Outcome.toExcept,
      bindResult, bind, named?, insertName, tell, horder]
  have hconnections : (two engine world).connections =
      [⟨1, .owned, some (1, first)⟩, ⟨2, .owned, some (2, second)⟩] := by
    simp [two, runAll, perform, connect, start, spawn, note, hfirst, hsecond, Outcome.toExcept,
      bindResult, bind, named?, insertName, tell]
  refine ⟨?_, fun name hname c hc => ?_, fun k handle hhandle => ?_⟩
  · rw [hnames]
    decide +kernel
  · have hpair : name = "a" ∧ c = 0 ∨ name = "b" ∧ c = 1 := by simpa [hnames] using hc
    rcases hpair with ⟨rfl, rfl⟩ | ⟨rfl, rfl⟩
    · cases i
      · exact absurd hname (by simp [users])
      · rfl
    · cases i
      · rfl
      · exact absurd hname (by simp [users])
  · cases i
    · obtain ⟨rfl, rfl⟩ : 2 = k ∧ second = handle := by
        simpa [handle?, hconnections, users] using hhandle
      exact ⟨rfl, hown'⟩
    · obtain ⟨rfl, rfl⟩ : 1 = k ∧ first = handle := by
        simpa [handle?, hconnections, users] using hhandle
      exact ⟨rfl, hown⟩

/-- So it is with every scripted engine that opens both. -/
theorem scripted_hosts (i : Bool) : Hosts (fun _ => True) (users i) (two script.engine ()) :=
  two_hosts rfl trivial rfl trivial i

/-- Two databases in memory are a session of this kind too, as their handles have no place on the
    disk. -/
theorem embedded_hosts (i : Bool) :
    Hosts (fun h => h.place = none) (users i) (two Embedded.engine (.ofDirectories [])) := by
  have hopen (k : Nat) : Embedded.engine.openHandle (.ofDirectories []) k .inMemory =
      (.ofDirectories [], .done (Embedded.newHandle k none false)) := rfl
  refine two_hosts (hopen 1) ?_ (hopen 2) ?_ i
  · rfl
  · rfl

/-- The first user leaves a scope, and the second closes its connection, by turns. -/
def steps : List (Bool × Step) :=
  [(true, .clone "a" "a2"), (false, .execute (some "b") "next" []),
    (true, .scope "a2" [.execute (some "a") "next" [], .execute (some "a") "boom" []] .exit),
    (false, .close "b"), (true, .isClosed "a")]

theorem steps_own : ∀ p ∈ steps, p.2.UsesOnly (users p.1).names := by
  simp [steps, users, Step.UsesOnly, Step.AllUseOnly]

/-- Each user has a table of its own, under one name, in a database in memory. -/
def tables : List (Bool × Step) :=
  [(true, .batch "a" "create table t (n integer)"),
    (false, .batch "b" "create table t (n integer)"),
    (false, .execute (some "b") "insert into t values (1)" []),
    (true, .execute (some "a") "select n from t" [])]

theorem tables_own : ∀ p ∈ tables, p.2.UsesOnly (users p.1).names := by
  simp [tables, users, Step.UsesOnly]

/-- One statement of each user, and the engine breaks down over that of the first. -/
def turns : List (Bool × Step) :=
  [(false, .execute (some "b") "next" []), (true, .execute (some "a") "boom" [])]

theorem turns_own : ∀ p ∈ turns, p.2.UsesOnly (users p.1).names := by
  simp [turns, users, Step.UsesOnly]

/-- The messages that users read. -/
def messages (replies : List Reply) : List (Option String) :=
  replies.map fun r => r.1.error?.map Error.text

end IsolationTest

open IsolationTest in
/-- Both users hear what they hear alone, and the first one has used its handle and closed it.
    With two databases in memory, either user has a table of its own. -/
theorem users_isolated_of_turns :
    (let together := (two script.engine ()).runAll script.engine (steps.map (·.2))
    let alone i := (two script.engine ()).runAll script.engine (stepsOf i steps)
    (∀ i, answers (repliesTo i steps together.2) = answers (alone i).2) ∧
    (∀ i, callsTo (users i).number together.1.log = callsTo (users i).number (alone i).1.log) ∧
    callsTo 1 together.1.log =
      [.opened 1, .submitted 1 "next", .submitted 1 "boom", .closed 1]) ∧
    let memory := two Embedded.engine (.ofDirectories [])
    ∀ i, answers (repliesTo i tables (memory.runAll Embedded.engine (tables.map (·.2))).2) =
      answers (memory.runAll Embedded.engine (stepsOf i tables)).2 := by
  obtain ⟨hscripted, hisolated⟩ := users_isolated
  have hboth := hisolated script.engine (fun _ => True) users (two script.engine ()) steps
    (hscripted script) users_apart scripted_hosts steps_own
  have hcalls : callsTo 1 ((two script.engine ()).runAll script.engine (steps.map (·.2))).1.log =
      [.opened 1, .submitted 1 "next", .submitted 1 "boom", .closed 1] := by decide +kernel
  have hmemory := hisolated Embedded.engine (fun h => h.place = none) users
    (two Embedded.engine (.ofDirectories [])) tables Embedded.engine_detached users_apart
    embedded_hosts tables_own
  exact ⟨⟨fun i => (hboth i).1, fun i => (hboth i).2, hcalls⟩, fun i => (hmemory i).1⟩

open IsolationTest in
/-- **A breakdown gives other users away.** It is the fourth task if the second user has run a
    statement before, and the third if the first user is alone, and its message says so. -/
theorem not_isolated_of_breakdown :
    script.engine.Detached (fun _ => True) ∧ (∀ i j, i ≠ j → (users i).Apart (users j)) ∧
    (∀ i, Hosts (fun _ => True) (users i) (two script.engine ())) ∧
    (∀ p ∈ turns, p.2.UsesOnly (users p.1).names) ∧
    messages (repliesTo true turns
        ((two script.engine ()).runAll script.engine (turns.map (·.2))).2) =
      [some ("SQL execution error: engine spawn_blocking join error: " ++
        "task 4 panicked with message \"bang\"")] ∧
    messages ((two script.engine ()).runAll script.engine (stepsOf true turns)).2 =
      [some ("SQL execution error: engine spawn_blocking join error: " ++
        "task 3 panicked with message \"bang\"")] :=
  ⟨script.engine_detached, users_apart, scripted_hosts, turns_own, by decide +kernel,
    by decide +kernel⟩

end Session

end SqlClient
