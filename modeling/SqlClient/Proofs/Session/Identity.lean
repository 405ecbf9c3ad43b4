import SqlClient.Engine.Scripted
import SqlClient.Proofs.Session.Numbers
import SqlClient.Proofs.Session.Openings

namespace SqlClient

/-!
# Numbers identify connections

The number that users see is the id that a connection has taken from the counter, and the number
of a handle is counted over the attempts.  Either tells connections apart: names that show one
number stand for one connection, and as long as it is open their statements reach one handle.

* `Step.rebinds`, `Session.perform_named?` — a name keeps its connection until it is given to
  another one or given up, whatever else is done.
* `Session.Shows` — what number a name shows.
* `Session.Reaches` — what handle the statements sent through a name reach.
* `Session.numbers_identify` — the whole account, in every state that is reached.
-/

/-- Opens a connection under this name, or takes a shared one that may have to be opened. -/
def Step.opensAs (name : String) : Step → Bool
  | .connect as _ => as = name
  | .acquire _ as => as = name
  | _ => false

mutual

/-- A step that may give the name to another connection, or give it up. -/
def Step.rebinds (name : String) : Step → Bool
  | .connect as _ => as = name
  | .clone _ as => as = name
  | .drop as => as = name
  | .acquire _ as => as = name
  | .scope _ steps _ => Step.anyRebinds name steps
  | .within _ nickname steps _ => nickname = name || Step.anyRebinds name steps
  | _ => false

/-- One of the steps may do so. -/
def Step.anyRebinds (name : String) : List Step → Bool
  | [] => false
  | step :: rest => step.rebinds name || Step.anyRebinds name rest

end

namespace Session

variable {World Handle : Type} (engine : Engine World Handle) {s t : Session World Handle}
  {name other : String}

/-! ### Names and what they stand for -/

/-- A name stands for the same connection in sessions with the same names. -/
theorem named?_congr (h : t.names = s.names) (name : String) : t.named? name = s.named? name := by
  rw [named?, named?, h]

/-- What was put under a name is found under it. -/
private theorem find?_insertName_self (name : String) (c : Nat) (names : List (String × Nat)) :
    (insertName name c names).find? (·.1 = name) = some (name, c) := by
  induction names with
  | nil => simp [insertName]
  | cons p rest ih =>
    obtain ⟨n, i⟩ := p
    unfold insertName
    split
    · simp
    · split
      · simp
      · rename_i hne
        rw [List.find?_cons_of_neg (by simpa using hne)]
        exact ih

/-- What is found under other names is as before. -/
private theorem find?_insertName_of_ne (h : other ≠ name) (c : Nat) (names : List (String × Nat)) :
    (insertName name c names).find? (·.1 = other) = names.find? (·.1 = other) := by
  induction names with
  | nil => simp [insertName, h.symm]
  | cons p rest ih =>
    obtain ⟨n, i⟩ := p
    unfold insertName
    split
    · exact List.find?_cons_of_neg (by simpa using h.symm)
    · split
      · rename_i heq
        subst heq
        -- the entry that is replaced has not the other name either
        rw [List.find?_cons_of_neg (by simpa using h.symm),
          List.find?_cons_of_neg (by simpa using h.symm)]
      · simp only [List.find?_cons, ih]

/-- A name that is bound stands for its new connection, and every other name for what it stood
    for. -/
theorem named?_bind (name : String) (c : Nat) (s : Session World Handle) (other : String) :
    (s.bind engine name c).named? other = if other = name then some c else s.named? other := by
  rw [named?_congr (bind_references engine name c s).names]
  by_cases h : other = name
  · subst h
    simp [named?, find?_insertName_self]
  · simp [named?, h, find?_insertName_of_ne]

/-- Where a name is given up, the others stand for what they stood for. -/
private theorem named?_unbind (h : other ≠ name) (s : Session World Handle) :
    (s.unbind engine name).named? other = s.named? other := by
  rw [named?_congr (unbind_references engine name s).names, named?, List.find?_filter]
  congr 2
  funext p
  by_cases hp : p.1 = other
  · simp [hp, h]
  · simp [hp]

/-- The result of opening a connection is bound to one name at most, and the others stay. -/
theorem bindResult_named? (p : Session World Handle × Except Error Nat) (h : other ≠ name) :
    (bindResult engine name p).1.named? other = p.1.named? other := by
  obtain ⟨s, e | c⟩ := p
  · rfl
  · exact (named?_bind engine name c s other).trans (if_neg h)

/-- A registry gives no names to what it hands out; that is left to whoever has asked. -/
theorem acquire_names (r : RegistryName) (s : Session World Handle) :
    (s.acquire engine r).1.names = s.names := by
  rcases acquire_references engine r s with h | h
  · exact h.names
  · exact h.names

/-- So it is however often the registry is asked. -/
theorem acquireMany_names (r : RegistryName) (count : Nat) (s : Session World Handle) :
    (s.acquireMany engine r count).1.names = s.names := by
  induction count generalizing s with
  | zero => rfl
  | succ count ih => exact (ih _).trans (acquire_names engine r s)

/-- A statement on the connection of a registry gives it no name either. -/
theorem executeShared_names (statement : String) (params : List Value)
    (s : Session World Handle) :
    (s.executeShared engine statement params).1.names = s.names := by
  have hacquire := acquire_names engine .process s
  unfold executeShared
  generalize s.acquire engine .process = p at hacquire ⊢
  obtain ⟨t, e | c⟩ := p
  · exact hacquire
  · exact (execute_references engine c statement params t).names.trans hacquire

/-- Leaving a scope keeps all names, and what they stand for. -/
theorem leave_named? (c : Nat) (s : Session World Handle) (name : String) :
    ((s.close engine c).1.unhold engine).named? name = s.named? name :=
  named?_congr ((unhold_references engine _).names.trans (close_references engine c s).names) name

mutual

/-- **A name keeps its connection** unless a step gives it to another one or gives it up. -/
theorem perform_named? (step : Step) (hstep : step.rebinds other = false)
    (s : Session World Handle) : (s.perform engine step).1.named? other = s.named? other := by
  cases step with
  | connect name options =>
    simp only [perform]
    have hother : other ≠ name := by simpa [Step.rebinds, eq_comm] using hstep
    rw [bindResult_named? engine _ hother]
    exact named?_congr (connect_references engine .owned options s).names other
  | clone source name =>
    have hother : other ≠ name := by simpa [Step.rebinds, eq_comm] using hstep
    exact onNamed_keeps (named? · other) fun c =>
      (named?_bind engine name c s other).trans (if_neg hother)
  | drop name =>
    have hother : other ≠ name := by simpa [Step.rebinds, eq_comm] using hstep
    exact onNamed_keeps (named? · other) fun _ => named?_unbind engine hother s
  | execute target statement params =>
    cases target with
    | none =>
      simp only [perform, rowsResult_fst]
      exact named?_congr (executeShared_names engine statement params s) other
    | some name =>
      refine onNamed_keeps (named? · other) fun c => ?_
      rw [rowsResult_fst]
      exact named?_congr (execute_references engine c statement params s).names other
  | batch name sql =>
    exact onNamed_keeps (named? · other) fun c =>
      named?_congr (executeBatch_references engine c sql s).names other
  | close name =>
    exact onNamed_keeps (named? · other) fun c =>
      named?_congr (close_references engine c s).names other
  | cancelled name polled =>
    -- a call that is given up may close its connection, but it keeps the names
    refine onNamed_keeps (named? · other) fun c => ?_
    unfold cancel
    split
    · exact named?_congr (close_references engine c s).names other
    · rfl
  | sameHandle first second =>
    exact onNamed_keeps (named? · other) fun _ => onNamed_keeps (named? · other) fun _ => rfl
  | scope name steps leave =>
    cases hname : s.named? name with
    | none => rw [(perform_fst_of_named?_eq_none engine hname).2.2.1]
    | some c =>
      -- leaving closes and lets go, and neither is about names
      rw [perform_scope_fst engine hname, leave_named?]
      exact runAll_named? steps (by simpa [Step.rebinds] using hstep) (s.hold c)
  | within name nickname steps result =>
    cases hname : s.named? name with
    | none => rw [(perform_fst_of_named?_eq_none engine hname).2.2.2]
    | some c =>
      have hparts : nickname ≠ other ∧ Step.anyRebinds other steps = false := by
        simpa [Step.rebinds] using hstep
      rw [perform_within_fst engine hname, leave_named?, runUntilError_named? steps hparts.2,
        named?_bind, if_neg hparts.1.symm]
      rfl
  | acquire r name =>
    simp only [perform]
    have hother : other ≠ name := by simpa [Step.rebinds, eq_comm] using hstep
    rw [bindResult_named? engine _ hother]
    exact named?_congr (acquire_names engine r s) other
  | acquireMany count => exact named?_congr (acquireMany_names engine .session count s) other
  | shutdown r => exact named?_congr (shutdown_references engine r s).names other
  | isInitialized => rfl
  | describeRegistry => rfl
  | unknown => rfl
  | _ => exact onNamed_keeps (named? · other) fun _ => rfl

/-- All steps of a program keep what a name stands for, if none of them binds the name anew. -/
theorem runAll_named? (steps : List Step) (hsteps : Step.anyRebinds other steps = false)
    (s : Session World Handle) : (s.runAll engine steps).1.named? other = s.named? other := by
  cases steps with
  | nil => rfl
  | cons step rest =>
    obtain ⟨hstep, hrest⟩ : step.rebinds other = false ∧ Step.anyRebinds other rest = false := by
      simpa [Step.anyRebinds] using hsteps
    exact (runAll_named? rest hrest _).trans (perform_named? step hstep s)

/-- So do its steps up to the first error. -/
theorem runUntilError_named? (steps : List Step) (hsteps : Step.anyRebinds other steps = false)
    (s : Session World Handle) :
    (s.runUntilError engine steps).1.named? other = s.named? other := by
  cases steps with
  | nil => rfl
  | cons step rest =>
    obtain ⟨hstep, hrest⟩ : step.rebinds other = false ∧ Step.anyRebinds other rest = false := by
      simpa [Step.anyRebinds] using hsteps
    have hfirst := perform_named? step hstep s
    simp only [runUntilError]
    cases (s.perform engine step).2.error? with
    | some e => exact hfirst
    | none => exact (runUntilError_named? rest hrest _).trans hfirst

end

/-! ### What users see -/

/-- The connections that were opened, out of all attempts. -/
def made (results : List (Except Error Nat)) : List Nat := results.filterMap Except.toOption

/-- Who asks for the number of the name's connection hears this one. -/
def Shows (s : Session World Handle) (name : String) (n : Nat) : Prop :=
  (s.perform engine (.number name)).2 = .number n

/-- All that is sent through the name reaches the handle of this number, and nothing else
    reaches the engine. -/
structure SendsTo (s : Session World Handle) (name : String) (k : Nat) : Prop where
  statement : ∀ statement params,
    (s.perform engine (.execute (some name) statement params)).1.log =
      s.log ++ [.submitted k statement]
  batch : ∀ sql, (s.perform engine (.batch name sql)).1.log = s.log ++ [.batched k sql]

/-- Numbers and attempts are counted, each from 1 and without a gap. -/
structure Counted (results : List (Except Error Nat)) (s : Session World Handle) : Prop where
  /-- the connections that were opened have the numbers 1, 2, …, whatever went wrong between -/
  numbers : (made results).map s.idOf = List.range' 1 (made results).length
  /-- these are all connections of the session, each at a place of its own -/
  places : made results = List.range s.connections.length
  /-- what went wrong has left the counter where it was -/
  counter : s.nextId = (made results).length + 1
  /-- the engine has counted all attempts -/
  attempts : s.log.filterMap Event.attempt? = List.range' 1 results.length
  /-- the next connection shows the next number, whoever opens it -/
  next : ∀ step name c, Step.opensAs name step = true → openings engine step s = [.ok c] →
    Shows engine (s.perform engine step).1 name ((made results).length + 1)

/-- The number goes with the connection. -/
structure Carried (s : Session World Handle) (name : String) (n : Nat) : Prop where
  clone : ∀ other, Shows engine (s.perform engine (.clone name other)).1 other n
  /-- no step changes it, be it a closing or a shutdown, if the name stays the connection's -/
  kept : ∀ step, step.rebinds name = false → Shows engine (s.perform engine step).1 name n
  /-- the guard of a scope has it, also when the scope is left -/
  scope : ∀ steps leave, ∃ replies outcome,
    (s.perform engine (.scope name steps leave)).2 = .scope n replies outcome
  /-- a call with a scope of its own is given it -/
  within : ∀ nickname steps result, ∃ events replies error,
    (s.perform engine (.within name nickname (.number nickname :: steps) result)).2 =
      .within ((.number n, events) :: replies) error

variable {engine}

/-- Asked for its number, a connection answers with the id that it was given, and nothing
    changes. -/
theorem perform_number {c : Nat} (h : s.named? name = some c) :
    s.perform engine (.number name) = (s, .number (s.idOf c)) := by
  simp only [perform, onNamed, h]

/-- A connection shows its id under each of its names. -/
theorem shows_of_named? {c : Nat} (h : s.named? name = some c) :
    Shows engine s name (s.idOf c) := by
  rw [Shows, perform_number h]

/-- A name shows a number exactly if it stands for a connection with that id. -/
theorem shows_iff {n : Nat} :
    Shows engine s name n ↔ ∃ c, s.named? name = some c ∧ n = s.idOf c := by
  refine ⟨fun h => ?_, ?_⟩
  · cases hname : s.named? name with
    | none => exact absurd h (by simp [Shows, perform, onNamed, hname])
    | some c =>
      rw [Shows, perform_number hname] at h
      exact ⟨c, rfl, (Answer.number.inj h).symm⟩
  · rintro ⟨c, hname, rfl⟩
    exact shows_of_named? hname

/-- What is sent through a name reaches the handle of its connection, if that is open. -/
theorem sendsTo_iff {c k : Nat} (hname : s.named? name = some c) :
    SendsTo engine s name k ↔ s.handleNumber? c = some k := by
  constructor
  · -- every statement and every batch is a call to the handle, and to no other
    intro h
    -- one statement is enough to see which handle is reached
    have hlog := h.statement "" []
    simp only [perform, onNamed, hname, rowsResult_fst] at hlog
    rcases execute_cases engine c "" [] s with
      ⟨_, heq⟩ | ⟨number, handle, world, handle', result, hc, heq⟩
    · rw [heq] at hlog
      exact absurd hlog (by simp [spawn])
    · rw [heq] at hlog
      obtain rfl : number = k := by simpa using hlog
      simp [handleNumber?, hc]
  · intro h
    refine ⟨fun statement params => ?_, fun sql => ?_⟩
    · simp only [perform, onNamed, hname, rowsResult_fst]
      rcases execute_cases engine c statement params s with
        ⟨hnone, _⟩ | ⟨number, handle, world, handle', result, hc, heq⟩
      · exact absurd h (by simp [handleNumber?, hnone])
      · obtain rfl : number = k := by simpa [handleNumber?, hc] using h
        rw [heq]
    · simp only [perform, onNamed, hname]
      rcases executeBatch_cases engine c sql s with
        ⟨hnone, _⟩ | ⟨number, handle, world, handle', result, hc, heq⟩
      · exact absurd h (by simp [handleNumber?, hnone])
      · obtain rfl : number = k := by simpa [handleNumber?, hc] using h
        rw [heq]

/-! ### The numbers of connections -/

variable {results : List (Except Error Nat)}

/-- A connection that a step has opened is the last one, and goes by the name that was given. -/
theorem named?_of_opensAs {step : Step} (hstep : step.opensAs name = true) {c : Nat}
    (h : openings engine step s = [.ok c]) :
    c = s.connections.length ∧ (s.perform engine step).1.named? name = some c := by
  cases step with
  | connect as options =>
    obtain rfl : as = name := by simpa [Step.opensAs] using hstep
    simp only [openings, List.cons.injEq, and_true] at h
    -- the one attempt has gone well
    obtain ⟨t, heq⟩ : ∃ t, s.connect engine .owned options = (t, .ok c) := ⟨_, Prod.ext rfl h⟩
    simp only [perform, heq, bindResult]
    exact ⟨(connect_eq_ok engine heq).1, by simp [named?_bind]⟩
  | acquire r as =>
    obtain rfl : as = name := by simpa [Step.opensAs] using hstep
    simp only [openings, acquireOpenings] at h
    rcases acquire_cases engine r s with
      ⟨d, hslot, heq⟩ | ⟨t, d, hslot, ht, heq⟩ | ⟨t, e, hslot, ht, heq⟩
    · -- a registry that keeps a connection opens none
      exact absurd h (by simp [hslot])
    · obtain rfl : d = c := by simpa [hslot, heq] using h
      simp only [perform, heq, bindResult]
      exact ⟨(connect_eq_ok engine ht).1, by simp [named?_bind]⟩
    · exact absurd h (by simp [hslot, heq])
  | _ => exact absurd hstep (by simp [Step.opensAs])

/-- No two connections have one id, as every id is given out once. -/
theorem Opened.idOf_inj (h : Opened results s) {c d : Nat} (hc : c < s.connections.length)
    (hd : d < s.connections.length) : s.idOf c = s.idOf d ↔ c = d := by
  rw [h.idOf_eq hc, h.idOf_eq hd, Nat.succ_inj]

/-- Where the results of all attempts are on record, ids have been given to those that went well,
    one after the other. -/
theorem Opened.counted (h : Opened results s) : Counted engine results s where
  numbers := by
    rw [made, h.places_eq, List.length_range, ← h.ids_eq]
    refine List.ext_getElem (by simp) fun c hc _ => ?_
    rw [List.getElem_map, List.getElem_range, h.idOf_eq (by simpa using hc)]
    simp [h.ids_eq, Nat.add_comm]
  places := h.places_eq
  counter := by rw [made, h.places_eq, List.length_range, h.nextId_eq]
  attempts := by
    rw [h.log_eq, List.range'_eq_map_range]
    simp [Nat.add_comm]
  next step name c hstep hopens := by
    obtain ⟨rfl, hname⟩ := named?_of_opensAs hstep hopens
    have hthen : Opened (results ++ openings engine step s) (s.perform engine step).1 :=
      perform_opened engine step h
    -- the place behind the others is taken now
    have hlength : s.connections.length < (s.perform engine step).1.connections.length := by
      have hplaces := congrArg List.length hthen.places_eq
      rw [hopens, List.filterMap_append, List.length_append, h.places_eq] at hplaces
      simp only [List.length_range, List.filterMap_cons, Except.toOption, List.filterMap_nil,
        List.length_singleton] at hplaces
      omega
    rw [made, h.places_eq, List.length_range, ← hthen.idOf_eq hlength]
    exact shows_of_named? hname

/-- A name of the connection shows its id after any moves. -/
theorem Moves.shows (h : Moves engine s t) {c : Nat} (hc : c < s.connections.length)
    (hname : t.named? name = some c) : Shows engine t name (s.idOf c) := by
  rw [← h.idOf_eq hc]
  exact shows_of_named? hname

/-- Whatever is done to a connection by one of its names, the number that it shows there stays
    with it. -/
theorem carried_of_named? {c : Nat} (hc : c < s.connections.length)
    (hname : s.named? name = some c) : Carried engine s name (s.idOf c) where
  clone other := by
    refine Moves.shows (perform_changes engine (.clone name other) s).moves hc ?_
    simp only [perform, onNamed, hname]
    rw [named?_bind, if_pos rfl]
  kept step hstep :=
    Moves.shows (perform_changes engine step s).moves hc
      ((perform_named? engine step hstep s).trans hname)
  scope steps leave := by
    simp only [perform, hname]
    exact ⟨_, _, rfl⟩
  within nickname steps result := by
    -- inside, the nickname stands for the connection
    have hinside : ((s.hold c).bind engine nickname c).named? nickname = some c := by
      rw [named?_bind, if_pos rfl]
    have hentered : ((s.hold c).bind engine nickname c).idOf c = s.idOf c :=
      Moves.idOf_eq ((hold_moves engine c s).trans (bind_moves engine nickname c _)) hc
    simp only [perform, hname, runUntilError, onNamed, hinside, hentered, Answer.error?]
    exact ⟨_, _, _, rfl⟩

/-- **Numbers identify connections.** Whatever state a program is in, and whatever became of
    its attempts to open connections: those that went well have taken the numbers 1, 2, … from
    the counter, in order, and no other attempt has moved it.  A number goes with its connection
    into clones and scopes and through closing.  Two names are for the same place exactly if they
    show one number; and if what is sent through each reaches a handle, then exactly if it is one
    handle.  It reaches one where the connection is open, namely that of the attempt which has
    opened it. -/
theorem numbers_identify {world : World} {registry : RegistryName → Options}
    (h : Reaching engine world registry results s) :
    Counted engine results s ∧
    (∀ name n, Shows engine s name n → Carried engine s name n) ∧
    (∀ a b m n, Shows engine s a m → Shows engine s b n →
      (s.perform engine (.sameHandle a b)).2 = .flag (m = n)) ∧
    (∀ a b m n j k, Shows engine s a m → Shows engine s b n →
      SendsTo engine s a j → SendsTo engine s b k → (m = n ↔ j = k)) ∧
    (∀ a n, Shows engine s a n → (s.perform engine (.isClosed a)).2 = .flag false →
      ∃ c i, n = s.idOf c ∧ results[i]? = some (.ok c) ∧ SendsTo engine s a (i + 1)) := by
  have hopened : Opened results s := h.opened
  -- a number that is shown is the id of the connection behind the name
  have hlt {name : String} {c : Nat} (hname : s.named? name = some c) :
      c < s.connections.length :=
    h.reachable.coherent.opened c (isReferenced_of_named? hname)
  refine ⟨hopened.counted, fun name n hn => ?_, fun a b m n hm hn => ?_,
    fun a b m n j k hm hn hj hk => ?_, fun a n hn hopen => ?_⟩
  · obtain ⟨c, hname, rfl⟩ := shows_iff.mp hn
    exact carried_of_named? (hlt hname) hname
  · obtain ⟨c, ha, rfl⟩ := shows_iff.mp hm
    obtain ⟨d, hb, rfl⟩ := shows_iff.mp hn
    simp only [perform, onNamed, ha, hb, hopened.idOf_inj (hlt ha) (hlt hb)]
  · obtain ⟨c, ha, rfl⟩ := shows_iff.mp hm
    obtain ⟨d, hb, rfl⟩ := shows_iff.mp hn
    rw [sendsTo_iff ha] at hj
    rw [sendsTo_iff hb] at hk
    rw [hopened.idOf_inj (hlt ha) (hlt hb)]
    constructor
    · rintro rfl
      exact Option.some.inj (hj.symm.trans hk)
    · rintro rfl
      exact h.reachable.numbered.unique c d j hj hk
  · obtain ⟨c, ha, rfl⟩ := shows_iff.mp hn
    simp only [perform, onNamed, ha, Answer.flag.injEq] at hopen
    obtain ⟨k, hk⟩ := isClosed_eq_false.mp hopen
    obtain ⟨i, rfl, hi⟩ := hopened.result_of_number c k hk
    exact ⟨c, i, rfl, hi, (sendsTo_iff ha).mpr hk⟩

namespace IdentityTest

/-- Its second handle is refused, and it breaks down over its third. -/
def script : Script where
  name := "scripted"
  opens := [none, some (.fail (.reported .engineInit "refused")), some (.breakDown "boom")]
  closes := []
  statements := []

def before : Session Unit ScriptedHandle := start () fun _ => .inMemory

/-- Users and a registry open connections in turn, some of them in vain; two get other names,
    and one is closed. -/
def program : List Step :=
  [.connect "a" .inMemory, .connect "b" .inMemory, .acquire .session "s", .acquire .session "s",
    .clone "a" "c", .connect "d" .inMemory, .close "d", .acquire .session "t"]

def attempted : List (Except Error Nat) := openingsInAll script.engine program before

def after : Session Unit ScriptedHandle := (before.runAll script.engine program).1

/-- The attempts of the example are on record, the failed one between the others. -/
theorem reaching_after : Reaching script.engine () (fun _ => .inMemory) attempted after := by
  have hbefore : Reaching script.engine () (fun _ => .inMemory) [] before := .start
  exact hbefore.runAll program

end IdentityTest

open IdentityTest in
/-- Three of five attempts go well.  The clone has the number of its source, and both send to
    the first handle; the registry has the second number and sends to the fourth handle; and
    the closed connection keeps the third. -/
theorem numbers_identify_of_failing_opens :
    attempted.map Except.toOption = [some 0, none, none, some 1, some 2] ∧
    (made attempted).map after.idOf = [1, 2, 3] ∧ after.nextId = 4 ∧
    (after.perform script.engine (.sameHandle "a" "c")).2 = .flag true ∧
    (after.perform script.engine (.sameHandle "a" "t")).2 = .flag false ∧
    SendsTo script.engine after "a" 1 ∧ SendsTo script.engine after "c" 1 ∧
    SendsTo script.engine after "t" 4 ∧ Carried script.engine after "d" 3 := by
  obtain ⟨hcounted, hcarried, hsame, hsends, hopen⟩ := numbers_identify reaching_after
  have hattempted : attempted.map Except.toOption = [some 0, none, none, some 1, some 2] := by
    decide +kernel
  have hmade : (made attempted).length = 3 := by decide +kernel
  have hnames : ["a", "c", "t", "d"].map after.named? = [some 0, some 0, some 1, some 2] := by
    decide +kernel
  simp only [List.map_cons, List.map_nil, List.cons.injEq, and_true] at hnames
  obtain ⟨ha, hc, ht, hd⟩ := hnames
  have hshown {name : String} {c : Nat} (h : after.named? name = some c)
      (hid : after.idOf c = c + 1) : Shows script.engine after name (c + 1) :=
    hid ▸ shows_of_named? h
  have hids : [0, 1, 2].map after.idOf = [1, 2, 3] := by decide +kernel
  simp only [List.map_cons, List.map_nil, List.cons.injEq, and_true] at hids
  obtain ⟨hone, htwo, hthree⟩ := hids
  have hfirst : SendsTo script.engine after "a" 1 := (sendsTo_iff ha).mpr (by decide +kernel)
  have hfourth : SendsTo script.engine after "t" 4 := (sendsTo_iff ht).mpr (by decide +kernel)
  -- the clone is open and shows the same number, so it sends to the same handle
  have hflag : (after.perform script.engine (.isClosed "c")).2 = .flag false := by
    have hzero : after.isClosed 0 = false := by decide +kernel
    simp only [perform, onNamed, hc, hzero]
  obtain ⟨c, i, _, _, hi⟩ := hopen "c" 1 (hshown hc hone) hflag
  have hclone : 1 = i + 1 := (hsends _ _ _ _ _ _ (hshown ha hone) (hshown hc hone) hfirst hi).mp rfl
  rw [← hclone] at hi
  refine ⟨hattempted, ?_, ?_, ?_, ?_, hfirst, hi, hfourth, hcarried _ _ (hshown hd hthree)⟩
  · rw [hcounted.numbers, hmade]
    rfl
  · rw [hcounted.counter, hmade]
  · rw [hsame _ _ _ _ (hshown ha hone) (hshown hc hone)]
    rfl
  · rw [hsame _ _ _ _ (hshown ha hone) (hshown ht htwo)]
    rfl

end Session

end SqlClient
