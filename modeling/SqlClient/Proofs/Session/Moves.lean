import Mathlib.Logic.Relation
import Mathlib.Order.Lattice
import Mathlib.Tactic.ByContra
import SqlClient.Session.Step

namespace SqlClient

/-!
# Moves of a session

Everything a session does comes down to five moves: it changes its references, it opens a
handle or fails to, it asks an open handle something, or it releases one.  A move says all
that it changes, so a property of the log or of the open handles is proved by looking at
the five moves and holds along every run.

* `Session.handleNumber?` — the handle a connection has; the part of it that shows.
* `Session.Move`, `Session.Moves` — one move, and a chain of them.
* `Session.connect_moves`, …, `Session.shutdown_moves` — the operations as chains of moves.
-/

namespace Event

/-- The number of the handle a call went to. -/
def handle : Event → Nat
  | opened handle => handle
  | submitted handle _ => handle
  | batched handle _ => handle
  | closed handle => handle

@[simp] theorem handle_opened (k : Nat) : (opened k).handle = k := rfl
@[simp] theorem handle_closed (k : Nat) : (closed k).handle = k := rfl

/-- A call that runs statements. -/
def isStatement : Event → Bool
  | submitted _ _ => true
  | batched _ _ => true
  | _ => false

end Event

namespace Session

variable {World Handle : Type}

/-! ### The handle of a connection -/

/-- The number of the handle a connection has, until it is closed. -/
def handleNumber? (s : Session World Handle) (c : Nat) : Option Nat :=
  (s.handle? c).map (·.1)

/-- A connection is closed exactly if it shows no number of a handle. -/
theorem isClosed_eq (s : Session World Handle) (c : Nat) :
    s.isClosed c = (s.handleNumber? c).isNone := by
  simp [isClosed, handleNumber?]

/-- A closed connection has no handle, and one without a handle is closed. -/
theorem isClosed_eq_true {s : Session World Handle} {c : Nat} :
    s.isClosed c = true ↔ s.handleNumber? c = none := by
  rw [isClosed_eq, Option.isNone_iff_eq_none]

/-- A connection is open exactly as long as there is a number of a handle that it shows. -/
theorem isClosed_eq_false {s : Session World Handle} {c : Nat} :
    s.isClosed c = false ↔ ∃ k, s.handleNumber? c = some k := by
  rw [isClosed_eq, Option.isNone_eq_false_iff, Option.isSome_iff_exists]

/-- Only a connection that was opened has a handle. -/
theorem lt_of_handle?_eq_some {s : Session World Handle} {c : Nat} {p : Nat × Handle}
    (h : s.handle? c = some p) : c < s.connections.length := by
  by_contra hge
  rw [handle?, List.getElem?_eq_none (Nat.not_lt.mp hge)] at h
  exact absurd h (by simp)

/-- Only a connection that was opened shows the number of a handle. -/
theorem lt_of_handleNumber?_eq_some {s : Session World Handle} {c k : Nat}
    (h : s.handleNumber? c = some k) : c < s.connections.length := by
  obtain ⟨p, hp, _⟩ := Option.map_eq_some_iff.mp h
  exact lt_of_handle?_eq_some hp

/-- A connection shows the number of the handle that it is given, and none if its handle is taken
    from it. -/
theorem handleNumber?_setHandle_self {s : Session World Handle} {c : Nat}
    (hc : c < s.connections.length) (p : Option (Nat × Handle)) :
    (s.setHandle c p).handleNumber? c = p.map (·.1) := by
  simp [handleNumber?, handle?, setHandle, List.getElem?_eq_getElem hc]

/-- Giving one connection a handle does not change the number that any other shows. -/
theorem handleNumber?_setHandle_of_ne (s : Session World Handle) {c d : Nat} (h : d ≠ c)
    (p : Option (Nat × Handle)) : (s.setHandle c p).handleNumber? d = s.handleNumber? d := by
  simp [handleNumber?, handle?, setHandle, h.symm]

/-- Closing is all that setting a handle can do to the numbers that show. -/
theorem handleNumber?_setHandle_none (s : Session World Handle) (c d : Nat) :
    (s.setHandle c none).handleNumber? d = if d = c then none else s.handleNumber? d := by
  by_cases h : d = c
  · subst h
    rw [if_pos rfl]
    by_cases hd : d < s.connections.length
    · rw [handleNumber?_setHandle_self hd]; rfl
    · simp [handleNumber?, handle?, setHandle, hd]
  · rw [if_neg h, handleNumber?_setHandle_of_ne s h]

/-- A connection whose handle was taken from it has none, whether or not it was ever opened. -/
theorem handle?_setHandle_none (c : Nat) (s : Session World Handle) :
    (s.setHandle c none).handle? c = none := by
  cases hc : s.connections[c]? <;> simp [handle?, setHandle, hc]

/-- A handle that has only changed inside keeps its number. -/
theorem handleNumber?_setHandle_some {s : Session World Handle} {c number : Nat}
    {handle : Handle} (hc : s.handle? c = some (number, handle)) (handle' : Handle) (d : Nat) :
    (s.setHandle c (some (number, handle'))).handleNumber? d = s.handleNumber? d := by
  by_cases h : d = c
  · subst h
    rw [handleNumber?_setHandle_self (lt_of_handle?_eq_some hc), handleNumber?, hc]
    rfl
  · exact handleNumber?_setHandle_of_ne s h _

/-- No connection is made or lost where one of them is given a handle, or its handle is taken from
    it. -/
theorem length_setHandle (s : Session World Handle) (c : Nat) (p : Option (Nat × Handle)) :
    (s.setHandle c p).connections.length = s.connections.length := by
  simp [setHandle]

/-- Who opened a connection does not depend on the handles. -/
theorem isShared_setHandle (s : Session World Handle) (c d : Nat) (p : Option (Nat × Handle)) :
    (s.setHandle c p).isShared d = s.isShared d := by
  by_cases h : c = d
  · subst h
    cases hc : s.connections[c]? <;> simp [isShared, setHandle, hc]
  · simp [isShared, setHandle, h]

/-- A connection keeps its id, whatever becomes of its handle. -/
theorem ids_setHandle (s : Session World Handle) (c : Nat) (p : Option (Nat × Handle)) :
    (s.setHandle c p).connections.map (·.id) = s.connections.map (·.id) := by
  refine List.ext_getElem? fun i => ?_
  simp only [setHandle, List.getElem?_map, List.getElem?_modify]
  cases s.connections[i]? with
  | none => rfl
  | some conn => by_cases hi : c = i <;> simp [hi]

/-- The id of a connection is in its place among all ids. -/
theorem idOf_eq (s : Session World Handle) (c : Nat) :
    s.idOf c = ((s.connections.map (·.id))[c]?).getD 0 := by
  rw [idOf, List.getElem?_map]

/-- A connection that is opened stands behind all others, with the number of its handle, and they
    keep theirs. -/
theorem handleNumber?_append {s t : Session World Handle} {id number : Nat}
    {ownership : Ownership} {handle : Handle}
    (h : t.connections = s.connections ++ [⟨id, ownership, some (number, handle)⟩]) (d : Nat) :
    t.handleNumber? d =
      if d = s.connections.length then some number else s.handleNumber? d := by
  simp only [handleNumber?, handle?, h, List.getElem?_append]
  -- before the new connection, at it, and behind it, where there is none
  rcases lt_trichotomy d s.connections.length with hlt | rfl | hgt
  · rw [if_pos hlt, if_neg hlt.ne]
  · simp
  · rw [if_neg (by omega), if_neg (by omega), List.getElem?_eq_none (by simp; omega),
      List.getElem?_eq_none (by omega)]

/-- Who opened a connection does not change where one more is opened behind it. -/
theorem isShared_append {s t : Session World Handle} {conn : Connection Handle}
    (h : t.connections = s.connections ++ [conn]) {d : Nat} (hd : d < s.connections.length) :
    t.isShared d = s.isShared d := by
  simp only [isShared, h, List.getElem?_append_left hd]

/-! ### Moves -/

/-- One move of a session. -/
inductive Move (engine : Engine World Handle) :
    Session World Handle → Session World Handle → Prop where
  /-- names, scopes, registries, tasks and what was told change; the engine hears nothing -/
  | refer (s : Session World Handle) (names : List (String × Nat)) (held : List Nat)
      (registry : RegistryName → Registry) (tasks told : Nat) :
      Move engine s
        { s with
          names := names, held := held, registry := registry, tasks := tasks, told := told }
  /-- a handle is opened and given to a new connection -/
  | opened (s : Session World Handle) (ownership : Ownership) (options : Options)
      (world : World) (handle : Handle)
      (h : (engine.openHandle s.world (s.attempts + 1) options).2 = .done handle) :
      Move engine s
        { s with
          world := world, attempts := s.attempts + 1, tasks := s.tasks + 1,
          nextId := s.nextId + 1, log := s.log ++ [.opened (s.attempts + 1)],
          connections := s.connections ++
            [⟨s.nextId, ownership, some (s.attempts + 1, handle)⟩] }
  /-- the engine does not open a handle -/
  | missed (s : Session World Handle) (options : Options) (world : World)
      (h : ∀ handle, (engine.openHandle s.world (s.attempts + 1) options).2 ≠ .done handle) :
      Move engine s
        { s with
          world := world, attempts := s.attempts + 1, tasks := s.tasks + 1,
          log := s.log ++ [.opened (s.attempts + 1)] }
  /-- an open handle runs statements -/
  | asked (s : Session World Handle) (c number : Nat) (handle handle' : Handle) (world : World)
      (event : Event) (hc : s.handle? c = some (number, handle))
      (hstatement : event.isStatement = true) (hnumber : event.handle = number) :
      Move engine s
        { s.setHandle c (some (number, handle')) with
          world := world, tasks := s.tasks + 1, log := s.log ++ [event] }
  /-- an open handle is released -/
  | released (s : Session World Handle) (c number : Nat) (handle : Handle) (world : World)
      (hc : s.handle? c = some (number, handle)) :
      Move engine s
        { s.setHandle c none with world := world, log := s.log ++ [.closed number] }

/-- A chain of moves. -/
abbrev Moves (engine : Engine World Handle) :
    Session World Handle → Session World Handle → Prop :=
  Relation.ReflTransGen (Move engine)

variable {engine : Engine World Handle}

/-- A move adds a connection at most, and takes none away. -/
theorem Move.length_le {s t : Session World Handle} (h : Move engine s t) :
    s.connections.length ≤ t.connections.length := by
  cases h with
  | opened => simp
  | asked c number handle handle' =>
    exact (length_setHandle s c (some (number, handle'))).ge
  | released c => exact (length_setHandle s c none).ge
  | _ => exact le_refl _

/-- A move changes the owner of no connection that there was. -/
theorem Move.isShared_eq {s t : Session World Handle} (h : Move engine s t) {c : Nat}
    (hc : c < s.connections.length) : t.isShared c = s.isShared c := by
  cases h with
  | opened => exact isShared_append rfl hc
  | asked d number handle handle' =>
    exact isShared_setHandle s d c (some (number, handle'))
  | released d => exact isShared_setHandle s d c none
  | _ => rfl

/-- A move changes the id of no connection that there was. -/
theorem Move.idOf_eq {s t : Session World Handle} (h : Move engine s t) {c : Nat}
    (hc : c < s.connections.length) : t.idOf c = s.idOf c := by
  cases h with
  | opened => simp only [idOf, List.getElem?_append_left hc]
  | asked d number handle handle' =>
    rw [Session.idOf_eq, Session.idOf_eq, ← ids_setHandle s d (some (number, handle'))]
  | released d =>
    rw [Session.idOf_eq, Session.idOf_eq, ← ids_setHandle s d none]
  | _ => rfl

/-- A connection keeps its handle or is closed; it never gets another one. -/
private theorem Move.handleNumber?_eq {s t : Session World Handle} (h : Move engine s t) {c : Nat}
    (hc : c < s.connections.length) :
    t.handleNumber? c = s.handleNumber? c ∨ t.handleNumber? c = none := by
  cases h with
  | opened =>
    left
    rw [handleNumber?_append rfl, if_neg hc.ne]
  | asked d number handle handle' world event hd =>
    exact .inl (handleNumber?_setHandle_some hd handle' c)
  | released d =>
    show (s.setHandle d none).handleNumber? c = _ ∨ (s.setHandle d none).handleNumber? c = none
    rw [handleNumber?_setHandle_none]
    split
    · exact .inr rfl
    · exact .inl rfl
  | _ => exact .inl rfl

/-- Connections are never lost: a connection that is closed keeps its place in the list. -/
theorem Moves.length_le {s t : Session World Handle} (h : Moves engine s t) :
    s.connections.length ≤ t.connections.length := by
  induction h with
  | refl => exact le_refl _
  | tail _ hmove ih => exact ih.trans hmove.length_le

/-- A registry has opened a connection, or it has not; whatever happens later does not change
    that. -/
theorem Moves.isShared_eq {s t : Session World Handle} (h : Moves engine s t) {c : Nat}
    (hc : c < s.connections.length) : t.isShared c = s.isShared c := by
  induction h with
  | refl => rfl
  | tail hmoves hmove ih =>
    exact (hmove.isShared_eq (hc.trans_le (Moves.length_le hmoves))).trans ih

/-- A connection keeps its id for as long as the session lasts, and after it was closed too. -/
theorem Moves.idOf_eq {s t : Session World Handle} (h : Moves engine s t) {c : Nat}
    (hc : c < s.connections.length) : t.idOf c = s.idOf c := by
  induction h with
  | refl => rfl
  | tail hmoves hmove ih =>
    exact (hmove.idOf_eq (hc.trans_le (Moves.length_le hmoves))).trans ih

/-- A connection that is closed stays closed, whatever is done. -/
theorem Moves.isClosed_of_isClosed {s t : Session World Handle} (h : Moves engine s t) {c : Nat}
    (hc : c < s.connections.length) (hclosed : s.isClosed c = true) : t.isClosed c = true := by
  induction h with
  | refl => exact hclosed
  | tail hmoves hmove ih =>
    -- a move keeps a number or takes it away, and here there is none to keep
    rw [isClosed_eq_true] at ih ⊢
    rcases hmove.handleNumber?_eq (hc.trans_le (Moves.length_le hmoves)) with heq | hnone
    · exact heq.trans ih
    · exact hnone

section Operations

variable (engine)

/-- Whatever only changes references is a single move: names, scopes, the slots of registries, and
    what was told of the log. -/
theorem refer_moves (s : Session World Handle) (names : List (String × Nat)) (held : List Nat)
    (registry : RegistryName → Registry) (told : Nat) :
    Moves engine s { s with names := names, held := held, registry := registry, told := told } :=
  .single (.refer s names held registry s.tasks told)

/-- A task that finds its connection closed is counted, and does nothing else. -/
theorem spawn_moves (s : Session World Handle) : Moves engine s s.spawn :=
  .single (.refer s s.names s.held s.registry (s.tasks + 1) s.told)

/-- What `connect` does: a new open connection with the next id, or one more attempt and
    nothing else; and in either case a task. -/
theorem connect_cases (ownership : Ownership) (options : Options) (s : Session World Handle) :
    (∃ world handle,
      (engine.openHandle s.world (s.attempts + 1) options).2 = .done handle ∧
      s.connect engine ownership options =
        ({ s with
            world := world, attempts := s.attempts + 1, tasks := s.tasks + 1,
            nextId := s.nextId + 1, log := s.log ++ [.opened (s.attempts + 1)],
            connections := s.connections ++
              [⟨s.nextId, ownership, some (s.attempts + 1, handle)⟩] },
          .ok s.connections.length)) ∨
    (∃ world e,
      (∀ handle, (engine.openHandle s.world (s.attempts + 1) options).2 ≠ .done handle) ∧
      s.connect engine ownership options =
        ({ s with
            world := world, attempts := s.attempts + 1, tasks := s.tasks + 1,
            log := s.log ++ [.opened (s.attempts + 1)] },
          .error e)) := by
  rcases h : engine.openHandle s.world (s.attempts + 1) options with ⟨world, outcome⟩
  -- only a handle makes a connection; an error and a breakdown both end in an error
  cases outcome with
  | done handle =>
    exact .inl ⟨world, handle, rfl, by simp [connect, spawn, note, h, Outcome.toExcept]⟩
  | failed e =>
    exact .inr ⟨world, e, by simp, by simp [connect, spawn, note, h, Outcome.toExcept]⟩
  | broke detail =>
    exact .inr ⟨world, .openBroke (s.tasks + 1) detail, by simp,
      by simp [connect, spawn, note, h, Outcome.toExcept]⟩

/-- A connection just opened stands behind all others. -/
theorem connect_eq_ok {s t : Session World Handle} {ownership : Ownership} {options : Options}
    {c : Nat} (ht : s.connect engine ownership options = (t, .ok c)) :
    c = s.connections.length ∧ t.connections.length = s.connections.length + 1 := by
  rcases connect_cases engine ownership options s with ⟨_, _, _, heq⟩ | ⟨_, _, _, heq⟩
  · rw [ht] at heq
    obtain ⟨rfl, hc⟩ := Prod.mk.inj heq
    exact ⟨Except.ok.inj hc, by simp⟩
  · rw [ht] at heq
    exact absurd (Prod.mk.inj heq).2 (by simp)

/-- What `release` does: nothing to a closed connection, and to an open one the same
    whatever the engine answers. -/
theorem release_cases (c : Nat) (s : Session World Handle) :
    (s.handle? c = none ∧ s.release engine c = (s, .ok ())) ∨
    (∃ number handle world result, s.handle? c = some (number, handle) ∧
      s.release engine c =
        ({ s.setHandle c none with world := world, log := s.log ++ [.closed number] },
          result)) := by
  cases h : s.handle? c with
  | none => exact .inl ⟨rfl, by simp [release, h]⟩
  | some p =>
    obtain ⟨number, handle⟩ := p
    exact .inr ⟨number, handle, _, _, rfl, by simp only [release, h]; rfl⟩

/-- Whoever releases a connection, its owner stays its owner. -/
theorem isShared_release (c d : Nat) (s : Session World Handle) :
    (s.release engine c).1.isShared d = s.isShared d := by
  rcases release_cases engine c s with ⟨_, heq⟩ | ⟨_, _, _, _, _, heq⟩
  · rw [heq]
  · rw [heq]
    exact isShared_setHandle s c d none

/-- What `execute` does: it is refused on a closed connection, and else it reaches the
    handle of its connection. -/
theorem execute_cases (c : Nat) (statement : String) (params : List Value)
    (s : Session World Handle) :
    (s.handle? c = none ∧ s.execute engine c statement params = (s.spawn, .error .closed)) ∨
    (∃ number handle world handle' result, s.handle? c = some (number, handle) ∧
      s.execute engine c statement params =
        ({ s.setHandle c (some (number, handle')) with
            world := world, tasks := s.tasks + 1, log := s.log ++ [.submitted number statement] },
          result)) := by
  have hspawn : s.spawn.handle? c = s.handle? c := rfl
  cases h : s.handle? c with
  | none => exact .inl ⟨rfl, by simp [execute, hspawn, h]⟩
  | some p =>
    obtain ⟨number, handle⟩ := p
    exact .inr ⟨number, handle, _, _, _, rfl, by simp only [execute, hspawn, h]; rfl⟩

/-- What `executeBatch` does, which is the same with a batch. -/
theorem executeBatch_cases (c : Nat) (sql : String) (s : Session World Handle) :
    (s.handle? c = none ∧ s.executeBatch engine c sql = (s.spawn, .error .closed)) ∨
    (∃ number handle world handle' result, s.handle? c = some (number, handle) ∧
      s.executeBatch engine c sql =
        ({ s.setHandle c (some (number, handle')) with
            world := world, tasks := s.tasks + 1, log := s.log ++ [.batched number sql] },
          result)) := by
  have hspawn : s.spawn.handle? c = s.handle? c := rfl
  cases h : s.handle? c with
  | none => exact .inl ⟨rfl, by simp [executeBatch, hspawn, h]⟩
  | some p =>
    obtain ⟨number, handle⟩ := p
    exact .inr ⟨number, handle, _, _, _, rfl, by simp only [executeBatch, hspawn, h]; rfl⟩

/-- Of what is asked of a closed connection the engine hears nothing. -/
theorem execute_of_isClosed {c : Nat} {s : Session World Handle} (h : s.isClosed c = true)
    (statement : String) (params : List Value) :
    s.execute engine c statement params = (s.spawn, .error .closed) := by
  rcases execute_cases engine c statement params s with ⟨_, heq⟩ | ⟨_, _, _, _, _, hc, _⟩
  · exact heq
  · exact absurd h (by simp [isClosed, hc])

/-- On a closed connection a batch gets as far as a task of its own, and the task finds the handle
    gone. -/
theorem executeBatch_of_isClosed {c : Nat} {s : Session World Handle} (h : s.isClosed c = true)
    (sql : String) : s.executeBatch engine c sql = (s.spawn, .error .closed) := by
  rcases executeBatch_cases engine c sql s with ⟨_, heq⟩ | ⟨_, _, _, _, _, hc, _⟩
  · exact heq
  · exact absurd h (by simp [isClosed, hc])

/-! ### The operations as chains of moves -/

/-- Connecting is a single move: the engine opens a handle for a new connection, or it refuses
    to. -/
theorem connect_moves (ownership : Ownership) (options : Options) (s : Session World Handle) :
    Moves engine s (s.connect engine ownership options).1 := by
  rcases connect_cases engine ownership options s with
    ⟨world, handle, h, heq⟩ | ⟨world, e, h, heq⟩
  · rw [heq]
    exact .single (.opened s ownership options world handle h)
  · rw [heq]
    exact .single (.missed s options world h)

/-- Releasing is a single move where there is a handle, and else none. -/
theorem release_moves (c : Nat) (s : Session World Handle) :
    Moves engine s (s.release engine c).1 := by
  rcases release_cases engine c s with ⟨_, heq⟩ | ⟨number, handle, world, _, hc, heq⟩
  · rw [heq]
  · rw [heq]
    exact .single (.released s c number handle world hc)

/-- Closing by hand is releasing, unless the connection was opened by a registry; then nothing
    moves. -/
theorem close_moves (c : Nat) (s : Session World Handle) :
    Moves engine s (s.close engine c).1 := by
  unfold close
  split
  · exact .refl
  · exact release_moves engine c s

/-- A connection that is let go is released if nothing refers to it any more. -/
theorem letGo_moves (c : Nat) (s : Session World Handle) : Moves engine s (s.letGo engine c) := by
  unfold letGo
  split
  · exact .refl
  · exact release_moves engine c s

/-- Binding a name to a connection changes the references, and may release the connection that had
    the name before. -/
theorem bind_moves (name : String) (c : Nat) (s : Session World Handle) :
    Moves engine s (s.bind engine name c) := by
  have hnames := refer_moves engine s (insertName name c s.names) s.held s.registry s.told
  unfold bind
  cases s.named? name with
  | none => exact hnames
  | some old => exact hnames.trans (letGo_moves engine old _)

/-- What was opened for a name is bound to it, and an error moves nothing. -/
theorem bindResult_moves (name : String) (p : Session World Handle × Except Error Nat) :
    Moves engine p.1 (bindResult engine name p).1 := by
  obtain ⟨s, e | c⟩ := p
  · exact .refl
  · exact bind_moves engine name c s

/-- A name that is given up leaves its connection to be released, if nothing else refers to it. -/
theorem unbind_moves (name : String) (s : Session World Handle) :
    Moves engine s (s.unbind engine name) := by
  unfold unbind
  cases s.named? name with
  | none => exact .refl
  | some c =>
    exact (refer_moves engine s (s.names.filter (·.1 ≠ name)) s.held s.registry s.told).trans
      (letGo_moves engine c _)

/-- A scope that is entered only adds to the references. -/
theorem hold_moves (c : Nat) (s : Session World Handle) : Moves engine s (s.hold c) :=
  refer_moves engine s s.names (c :: s.held) s.registry s.told

/-- A scope that is left gives up its reference, and the connection may be released for that. -/
theorem unhold_moves (s : Session World Handle) : Moves engine s (s.unhold engine) := by
  unfold unhold
  split
  · exact .refl
  · rename_i c rest _
    exact (refer_moves engine s s.names rest s.registry s.told).trans (letGo_moves engine c _)

/-- Running a statement asks an open handle once; on a closed connection nothing moves but the
    count of tasks. -/
theorem execute_moves (c : Nat) (statement : String) (params : List Value)
    (s : Session World Handle) : Moves engine s (s.execute engine c statement params).1 := by
  rcases execute_cases engine c statement params s with
    ⟨_, heq⟩ | ⟨number, handle, world, handle', _, hc, heq⟩
  · rw [heq]
    exact spawn_moves engine s
  · rw [heq]
    exact .single (.asked s c number handle handle' world _ hc rfl rfl)

/-- Running a batch asks an open handle once, as a statement does. -/
theorem executeBatch_moves (c : Nat) (sql : String) (s : Session World Handle) :
    Moves engine s (s.executeBatch engine c sql).1 := by
  rcases executeBatch_cases engine c sql s with
    ⟨_, heq⟩ | ⟨number, handle, world, handle', _, hc, heq⟩
  · rw [heq]
    exact spawn_moves engine s
  · rw [heq]
    exact .single (.asked s c number handle handle' world _ hc rfl rfl)

/-- What a registry keeps is a reference like others. -/
theorem setSlot_moves (name : RegistryName) (slot : Option Nat) (s : Session World Handle) :
    Moves engine s (s.setSlot name slot) :=
  refer_moves engine s s.names s.held _ s.told

/-- What `acquire` does: the shared connection is there, or one is opened and put in the
    slot, or none is opened and the slot stays empty. -/
theorem acquire_cases (name : RegistryName) (s : Session World Handle) :
    (∃ c, (s.registry name).slot = some c ∧ s.acquire engine name = (s, .ok c)) ∨
    (∃ t c, (s.registry name).slot = none ∧
      s.connect engine .shared (s.registry name).options = (t, .ok c) ∧
      s.acquire engine name = (t.setSlot name (some c), .ok c)) ∨
    (∃ t e, (s.registry name).slot = none ∧
      s.connect engine .shared (s.registry name).options = (t, .error e) ∧
      s.acquire engine name = (t, .error e)) := by
  cases hslot : (s.registry name).slot with
  | some c => exact .inl ⟨c, rfl, by simp [acquire, hslot]⟩
  | none =>
    rcases hconnect : s.connect engine .shared (s.registry name).options with ⟨t, e | c⟩
    · exact .inr (.inr ⟨t, e, rfl, rfl, by simp [acquire, hslot, hconnect]⟩)
    · exact .inr (.inl ⟨t, c, rfl, rfl, by simp [acquire, hslot, hconnect]⟩)

/-- A registry that is asked hands out the connection it keeps, or opens one and keeps that. -/
theorem acquire_moves (name : RegistryName) (s : Session World Handle) :
    Moves engine s (s.acquire engine name).1 := by
  have hconnect := connect_moves engine .shared (s.registry name).options s
  rcases acquire_cases engine name s with ⟨c, _, heq⟩ | ⟨t, c, _, ht, heq⟩ | ⟨t, e, _, ht, heq⟩
  · rw [heq]
  · rw [heq]
    rw [ht] at hconnect
    -- the slot is filled after the handle is there
    exact hconnect.trans (setSlot_moves engine name (some c) t)
  · rw [heq]
    rw [ht] at hconnect
    exact hconnect

/-- A registry that shuts down releases the connection it keeps, and keeps none after it. -/
theorem shutdown_moves (name : RegistryName) (s : Session World Handle) :
    Moves engine s (s.shutdown engine name).1 := by
  unfold shutdown
  split
  · exact .refl
  · rename_i c _
    exact (setSlot_moves engine name none s).trans (release_moves engine c _)

/-- Telling the log changes nothing that a later operation looks at. -/
theorem tell_moves (s : Session World Handle) : Moves engine s s.tell.1 :=
  refer_moves engine s s.names s.held s.registry s.log.length

end Operations

end Session

end SqlClient
