import Mathlib.Data.Set.Insert
import SqlClient.Proofs.Engine.Detached
import SqlClient.Proofs.Session.Lifetimes

/-!
# Users that keep to themselves

A user of a session knows one connection, by names of its own.  What it does to the
connection it does in the same way in all sessions that look the same to it, and it leaves
everything else alone.

* `User`, `User.Apart` — users, and users that share neither names nor handles.
* `Hosts` — a session in which a user keeps to itself.
* `Alike` — two sessions that look the same to a user.
* `Spares` — what a user leaves alone.
* `Kept` — what every operation of a user keeps.
* `Error.unnumbered` — an error without the number of the task that broke down.
* `Together.release`, …, `Together.unhold` — the operations.
* `Spares.hosts`, `Spares.alike` — a user does not notice what another does.
-/

namespace SqlClient

/-- An error without the number of the task that broke down: the pool counts the tasks of
    everybody who works in the session. -/
def Error.unnumbered : Error → Error
  | openBroke _ detail => openBroke 0 detail
  | statementBroke _ detail => statementBroke 0 detail
  | e => e

/-- A breakdown is worded alike by tasks of different numbers, once the number is left out. -/
theorem Outcome.mapError_toExcept {α : Type} (outcome : Outcome α) (task task' : Nat) :
    (outcome.toExcept (.statementBroke task)).mapError Error.unnumbered =
      (outcome.toExcept (.statementBroke task')).mapError Error.unnumbered := by
  cases outcome <;> rfl

/-- The number is all that goes: written with one letter for every number, the message stays. -/
theorem Error.message_unnumbered (e : Error) : e.unnumbered.message = e.message := by
  cases e <;> rfl

namespace Session

/-- A user: its connection, the number of the handle, and the names it uses. -/
structure User where
  connection : Nat
  number : Nat
  names : Set String

/-- Users with different connections and handles, and no name in common. -/
structure User.Apart (u v : User) : Prop where
  connection : u.connection ≠ v.connection
  number : u.number ≠ v.number
  names : ∀ name ∈ u.names, name ∉ v.names

variable {World Handle : Type} {own : Handle → Prop} {u v : User}
  {s s' t t' : Session World Handle}

/-- A session in which the names of a user stand for its connection, or for nothing, and the
    handle of the connection is of a kind. -/
structure Hosts (own : Handle → Prop) (u : User) (s : Session World Handle) : Prop where
  sorted : NamesSorted s.names
  named : ∀ name ∈ u.names, ∀ c, (name, c) ∈ s.names → c = u.connection
  handle : ∀ k handle, s.handle? u.connection = some (k, handle) → k = u.number ∧ own handle

/-- Somebody else has a name for the connection of a user. -/
def NamedElsewhere (u : User) (s : Session World Handle) : Prop :=
  ∃ name ∉ u.names, (name, u.connection) ∈ s.names

/-- Two sessions that look the same to a user. -/
structure Alike (u : User) (s t : Session World Handle) : Prop where
  connection : s.connections[u.connection]? = t.connections[u.connection]?
  named : ∀ name ∈ u.names, ∀ c, (name, c) ∈ s.names ↔ (name, c) ∈ t.names
  namedElsewhere : NamedElsewhere u s ↔ NamedElsewhere u t
  held : s.held = t.held
  registry : s.registry = t.registry
  calls : callsTo u.number s.log = callsTo u.number t.log

/-- What a user leaves alone from one session to the next: other connections and names, the
    registries, and what is called on other handles. -/
structure Spares (u : User) (s s' : Session World Handle) : Prop where
  connection : ∀ c ≠ u.connection, s'.connections[c]? = s.connections[c]?
  named : ∀ name ∉ u.names, ∀ c, (name, c) ∈ s'.names ↔ (name, c) ∈ s.names
  registry : s'.registry = s.registry
  calls : ∀ k ≠ u.number, callsTo k s'.log = callsTo k s.log

/-- A user finds a session like itself. -/
theorem Alike.refl (u : User) (s : Session World Handle) : Alike u s s :=
  ⟨rfl, fun _ _ _ => Iff.rfl, Iff.rfl, rfl, rfl, rfl⟩

/-- What changes nothing spares every user. -/
theorem Spares.refl (u : User) (s : Session World Handle) : Spares u s s :=
  ⟨fun _ _ => rfl, fun _ _ _ => Iff.rfl, rfl, fun _ _ => rfl⟩

/-- What spares a user twice in a row spares it. -/
theorem Spares.trans {s'' : Session World Handle} (h : Spares u s s') (h' : Spares u s' s'') :
    Spares u s s'' where
  connection c hc := (h'.connection c hc).trans (h.connection c hc)
  named name hname c := (h'.named name hname c).trans (h.named name hname c)
  registry := h'.registry.trans h.registry
  calls k hk := (h'.calls k hk).trans (h.calls k hk)

/-- Two sessions in which a user keeps to itself and that look the same to it. -/
structure Together (own : Handle → Prop) (u : User) (s t : Session World Handle) : Prop where
  here : Hosts own u s
  there : Hosts own u t
  alike : Alike u s t

/-- What a user keeps when it does the same in two sessions: they still look the same to it,
    and in the first of them it leaves everything else alone. -/
structure Kept (own : Handle → Prop) (u : User) (s s' t' : Session World Handle) : Prop where
  together : Together own u s' t'
  spares : Spares u s s'

/-- Before any step, both sessions are kept as they are. -/
theorem Together.kept (h : Together own u s t) : Kept own u s s t := ⟨h, .refl u s⟩

/-- Steps that are kept one after the other are kept as one, and others are spared by all of
    them. -/
theorem Kept.trans {s'' t'' : Session World Handle} (h : Kept own u s s' t')
    (h' : Kept own u s' s'' t'') : Kept own u s s'' t'' :=
  ⟨h'.together, h.spares.trans h'.spares⟩

/-! ### Looking -/

/-- Sessions that are alike for a user have the same handle under its connection, down to what is
    inside. -/
theorem Alike.handle? (h : Alike u s t) :
    s.handle? u.connection = t.handle? u.connection := by
  simp only [Session.handle?, h.connection]

/-- The connection is closed in both sessions, or has the same handle of the user. -/
theorem Together.handle?_cases (h : Together own u s t) :
    (s.handle? u.connection = none ∧ t.handle? u.connection = none) ∨
    ∃ handle, own handle ∧ s.handle? u.connection = some (u.number, handle) ∧
      t.handle? u.connection = some (u.number, handle) := by
  rw [← h.alike.handle?]
  cases hs : s.handle? u.connection with
  | none => exact .inl ⟨rfl, rfl⟩
  | some p =>
    obtain ⟨number, handle⟩ := p
    obtain ⟨rfl, hown⟩ := h.here.handle number handle hs
    exact .inr ⟨handle, hown, rfl, rfl⟩

/-- They agree on who has opened its connection, so on who may close it. -/
theorem Alike.isShared (h : Alike u s t) :
    s.isShared u.connection = t.isShared u.connection := by
  simp only [Session.isShared, h.connection]

/-- Where names are in order, a name stands for a connection exactly if the two are in the
    list. -/
theorem named?_eq_some_iff (hs : NamesSorted s.names) {name : String} {c : Nat} :
    s.named? name = some c ↔ (name, c) ∈ s.names :=
  ⟨mem_of_named?, named?_of_mem hs⟩

/-- A name of the user stands in both sessions for nothing, or for its connection. -/
theorem Together.named?_cases (h : Together own u s t) {name : String} (hname : name ∈ u.names) :
    (s.named? name = none ∧ t.named? name = none) ∨
    (s.named? name = some u.connection ∧ t.named? name = some u.connection) := by
  have hsame : s.named? name = t.named? name := by
    refine Option.ext fun c => ?_
    rw [named?_eq_some_iff h.here.sorted, named?_eq_some_iff h.there.sorted]
    exact h.alike.named name hname c
  rw [← hsame, and_self, and_self]
  cases hs : s.named? name with
  | none => exact .inl rfl
  | some c => exact .inr (by rw [h.here.named name hname c (mem_of_named? hs)])

/-- A connection is named by its user, or by somebody else. -/
theorem isReferenced_user_iff :
    s.isReferenced u.connection = true ↔
      (∃ name ∈ u.names, (name, u.connection) ∈ s.names) ∨ NamedElsewhere u s ∨
        u.connection ∈ s.held ∨ ∃ r, (s.registry r).slot = some u.connection := by
  have hnames : (∃ name, (name, u.connection) ∈ s.names) ↔
      (∃ name ∈ u.names, (name, u.connection) ∈ s.names) ∨ NamedElsewhere u s := by
    constructor
    · rintro ⟨name, hmem⟩
      by_cases hname : name ∈ u.names
      · exact .inl ⟨name, hname, hmem⟩
      · exact .inr ⟨name, hname, hmem⟩
    · rintro (⟨name, _, hmem⟩ | ⟨name, _, hmem⟩)
      · exact ⟨name, hmem⟩
      · exact ⟨name, hmem⟩
  rw [isReferenced_iff, hnames, or_assoc]

/-- They agree on whether anything refers to its connection, so on whether it is to be
    released. -/
theorem Alike.isReferenced (h : Alike u s t) :
    s.isReferenced u.connection = t.isReferenced u.connection := by
  have hnamed : (∃ name ∈ u.names, (name, u.connection) ∈ s.names) ↔
      ∃ name ∈ u.names, (name, u.connection) ∈ t.names :=
    exists_congr fun name => and_congr_right fun hname => h.named name hname u.connection
  rw [Bool.eq_iff_iff, isReferenced_user_iff, isReferenced_user_iff, hnamed, h.namedElsewhere,
    h.held, h.registry]

/-! ### Changing -/

/-- Giving one connection a handle leaves all that the session has of another. -/
private theorem getElem?_setHandle_of_ne {c d : Nat} (hd : d ≠ c) (p : Option (Nat × Handle))
    (s : Session World Handle) : (s.setHandle c p).connections[d]? = s.connections[d]? := by
  simp [setHandle, hd.symm]

/-- A connection that is given a handle keeps its id and its owner. -/
theorem getElem?_setHandle_self (c : Nat) (p : Option (Nat × Handle))
    (s : Session World Handle) :
    (s.setHandle c p).connections[c]? =
      (s.connections[c]?).map fun conn => { conn with handle := p } := by
  simp [setHandle]

/-- The connection gets another handle of the user, or none, and a call on the handle is
    logged; the worlds may become anything. -/
theorem Together.touch (h : Together own u s t) {handle : Option (Nat × Handle)}
    (hhandle : ∀ k x, handle = some (k, x) → k = u.number ∧ own x) {e : Event}
    (he : e.handle = u.number) (world world' : World) :
    Kept own u s
      { s.setHandle u.connection handle with world := world, log := s.log ++ [e] }
      { t.setHandle u.connection handle with world := world', log := t.log ++ [e] } := by
  -- the handle that is put there is the user's own, if there is one at all
  have hosts {r : Session World Handle} (hr : Hosts own u r) (w : World) :
      Hosts own u { r.setHandle u.connection handle with world := w, log := r.log ++ [e] } := by
    refine ⟨hr.sorted, hr.named, fun k x hx => hhandle k x ?_⟩
    have hset : ((r.setHandle u.connection handle).connections[u.connection]?).bind (·.handle) =
        some (k, x) := hx
    rw [getElem?_setHandle_self] at hset
    cases hc : r.connections[u.connection]? with
    | none => exact absurd hset (by simp [hc])
    | some conn => simpa [hc] using hset
  refine ⟨⟨hosts h.here world, hosts h.there world', ?_⟩, ?_⟩
  · refine ⟨?_, h.alike.named, h.alike.namedElsewhere, h.alike.held, h.alike.registry, ?_⟩
    · show (s.setHandle u.connection handle).connections[u.connection]? =
        (t.setHandle u.connection handle).connections[u.connection]?
      rw [getElem?_setHandle_self, getElem?_setHandle_self, h.alike.connection]
    · rw [callsTo_append_self he, callsTo_append_self he, h.alike.calls]
  · refine ⟨fun c hc => getElem?_setHandle_of_ne hc handle s, fun _ _ _ => Iff.rfl, rfl,
      fun k hk => callsTo_append_of_ne ?_ s.log⟩
    rw [he]
    exact hk.symm

/-- A handle that the user may put in the place of its own. -/
theorem some_own {handle : Handle} (hown : own handle) (k : Nat) (x : Handle)
    (hx : some (u.number, handle) = some (k, x)) : k = u.number ∧ own x := by
  obtain ⟨rfl, rfl⟩ := Prod.mk.inj (Option.some.inj hx)
  exact ⟨rfl, hown⟩

/-- Names of the user are given to its connection, or given up. -/
theorem Together.rename (h : Together own u s t) {names names' : List (String × Nat)}
    (hsorted : NamesSorted names) (hsorted' : NamesSorted names')
    (hown : ∀ name ∈ u.names, ∀ c, (name, c) ∈ names → c = u.connection)
    (hsame : ∀ name ∈ u.names, ∀ c, (name, c) ∈ names ↔ (name, c) ∈ names')
    (hothers : ∀ name ∉ u.names, ∀ c, (name, c) ∈ names ↔ (name, c) ∈ s.names)
    (hothers' : ∀ name ∉ u.names, ∀ c, (name, c) ∈ names' ↔ (name, c) ∈ t.names) :
    Kept own u s { s with names := names } { t with names := names' } := by
  refine ⟨⟨⟨hsorted, hown, h.here.handle⟩, ⟨hsorted', ?_, h.there.handle⟩, ?_⟩, ?_⟩
  · exact fun name hname c hc => hown name hname c ((hsame name hname c).mpr hc)
  · refine ⟨h.alike.connection, hsame, ?_, h.alike.held, h.alike.registry, h.alike.calls⟩
    -- names of others are as before, so nobody else has begun to use the connection
    have hhere : NamedElsewhere u { s with names := names } ↔ NamedElsewhere u s :=
      exists_congr fun name => and_congr_right fun hname => hothers name hname u.connection
    have hthere : NamedElsewhere u { t with names := names' } ↔ NamedElsewhere u t :=
      exists_congr fun name => and_congr_right fun hname => hothers' name hname u.connection
    rw [hhere, hthere, h.alike.namedElsewhere]
  · exact ⟨fun _ _ => rfl, hothers, rfl, fun _ _ => rfl⟩

/-- A name of the user is put among those of both sessions, and among the same names of its
    own. -/
theorem Together.insertName (h : Together own u s t) {name : String} (hname : name ∈ u.names) :
    Kept own u s { s with names := Session.insertName name u.connection s.names }
      { t with names := Session.insertName name u.connection t.names } := by
  have hmem {r : Session World Handle} (hr : NamesSorted r.names) (n : String) (c : Nat) :
      (n, c) ∈ Session.insertName name u.connection r.names ↔
        (n = name ∧ c = u.connection) ∨ (n ≠ name ∧ (n, c) ∈ r.names) := by
    rw [mem_insertName hr, Prod.mk.injEq]
  have hothers {r : Session World Handle} (hr : NamesSorted r.names) (n : String)
      (hn : n ∉ u.names) (c : Nat) :
      (n, c) ∈ Session.insertName name u.connection r.names ↔ (n, c) ∈ r.names := by
    have hne : n ≠ name := fun heq => hn (heq ▸ hname)
    rw [hmem hr]
    simp [hne]
  refine h.rename (insertName_sorted h.here.sorted name u.connection)
    (insertName_sorted h.there.sorted name u.connection) (fun n hn c hc => ?_)
    (fun n hn c => ?_) (hothers h.here.sorted) (hothers h.there.sorted)
  · rcases (hmem h.here.sorted n c).mp hc with ⟨_, hc⟩ | ⟨_, hc⟩
    · exact hc
    · exact h.here.named n hn c hc
  · rw [hmem h.here.sorted, hmem h.there.sorted, h.alike.named n hn c]

/-- A name of the user is taken out of both sessions, and names of others are left in the one that
    has them. -/
theorem Together.eraseName (h : Together own u s t) {name : String} (hname : name ∈ u.names) :
    Kept own u s { s with names := s.names.filter (·.1 ≠ name) }
      { t with names := t.names.filter (·.1 ≠ name) } := by
  have hmem (names : List (String × Nat)) (n : String) (c : Nat) :
      (n, c) ∈ names.filter (·.1 ≠ name) ↔ (n, c) ∈ names ∧ n ≠ name := by
    simp
  have hothers (names : List (String × Nat)) (n : String) (hn : n ∉ u.names) (c : Nat) :
      (n, c) ∈ names.filter (·.1 ≠ name) ↔ (n, c) ∈ names := by
    have hne : n ≠ name := fun heq => hn (heq ▸ hname)
    rw [hmem]
    exact and_iff_left hne
  refine h.rename (h.here.sorted.filter _) (h.there.sorted.filter _) (fun n hn c hc => ?_)
    (fun n hn c => ?_) (hothers s.names) (hothers t.names)
  · exact h.here.named n hn c ((hmem s.names n c).mp hc).1
  · rw [hmem, hmem, h.alike.named n hn c]

/-- The scopes are the user's; the number of tasks and what was told do not matter. -/
theorem Together.withHeld (h : Together own u s t) (held : List Nat)
    (tasks tasks' told told' : Nat) :
    Kept own u s { s with tasks := tasks, held := held, told := told }
      { t with tasks := tasks', held := held, told := told' } :=
  ⟨⟨⟨h.here.sorted, h.here.named, h.here.handle⟩, ⟨h.there.sorted, h.there.named, h.there.handle⟩,
    ⟨h.alike.connection, h.alike.named, h.alike.namedElsewhere, rfl, h.alike.registry,
      h.alike.calls⟩⟩,
    ⟨fun _ _ => rfl, fun _ _ _ => Iff.rfl, rfl, fun _ _ => rfl⟩⟩

/-- A scope of the user is entered in both sessions. -/
theorem Together.hold (h : Together own u s t) (c : Nat) :
    Kept own u s (s.hold c) (t.hold c) := by
  have hheld := h.withHeld (c :: s.held) s.tasks t.tasks s.told t.told
  unfold Session.hold
  rw [h.alike.held] at hheld ⊢
  exact hheld

/-- The log is told in both sessions, and neither looks different for it. -/
theorem Together.tell (h : Together own u s t) : Kept own u s s.tell.1 t.tell.1 := by
  have htold := h.withHeld s.held s.tasks t.tasks s.log.length t.log.length
  unfold Session.tell
  rw [h.alike.held] at htold ⊢
  exact htold

/-- A task more or less is nothing that a user could tell from its connection, its handle or its
    names. -/
theorem Together.spawn (h : Together own u s t) : Kept own u s s.spawn t.spawn := by
  have hspawned := h.withHeld s.held (s.tasks + 1) (t.tasks + 1) s.told t.told
  unfold Session.spawn
  rw [h.alike.held] at hspawned ⊢
  exact hspawned

/-! ### Operations of the user -/

/-- The user does the same in two sessions: it hears the same, and keeps what it has to. -/
structure Agrees {α : Type} (own : Handle → Prop) (u : User) (s : Session World Handle)
    (x y : Session World Handle × α) : Prop where
  answer : x.2 = y.2
  kept : Kept own u s x.1 y.1

section Operations

variable {engine : Engine World Handle} (hengine : engine.Detached own)

include hengine

/-- Releasing the connection of the user goes the same way in both sessions, as the handle shares
    nothing. -/
theorem Together.release (h : Together own u s t) :
    Agrees own u s (s.release engine u.connection) (t.release engine u.connection) := by
  unfold Session.release
  rcases h.handle?_cases with ⟨hs, ht⟩ | ⟨handle, hown, hs, ht⟩
  · simp only [hs, ht]
    exact ⟨rfl, h.kept⟩
  · obtain ⟨result, hclose⟩ := hengine.close handle hown
    simp only [hs, ht, hclose]
    exact ⟨rfl, h.touch (fun _ _ hnone => absurd hnone (by simp)) rfl _ _⟩

/-- So does closing it by hand, as both know alike whether a registry has opened it. -/
theorem Together.close (h : Together own u s t) :
    Agrees own u s (s.close engine u.connection) (t.close engine u.connection) := by
  have hshared := h.alike.isShared
  unfold Session.close
  rw [← hshared]
  split
  · exact ⟨rfl, h.kept⟩
  · exact h.release hengine

/-- So does letting it go, as both know alike whether anything still refers to it. -/
theorem Together.letGo (h : Together own u s t) :
    Kept own u s (s.letGo engine u.connection) (t.letGo engine u.connection) := by
  have hreferenced := h.alike.isReferenced
  unfold Session.letGo
  rw [← hreferenced]
  split
  · exact h.kept
  · exact (h.release hengine).kept

/-- Binding a name of the user to its connection lets go of that same connection at most, as the
    name had no other. -/
theorem Together.bind (h : Together own u s t) {name : String} (hname : name ∈ u.names) :
    Kept own u s (s.bind engine name u.connection) (t.bind engine name u.connection) := by
  have hinsert := h.insertName hname
  unfold Session.bind
  rcases h.named?_cases hname with ⟨hs, ht⟩ | ⟨hs, ht⟩
  · simp only [hs, ht]
    exact hinsert
  · -- what the name stood for before is the user's connection too
    simp only [hs, ht]
    exact hinsert.trans (hinsert.together.letGo hengine)

/-- Giving up a name of the user lets go of its own connection at most. -/
theorem Together.unbind (h : Together own u s t) {name : String} (hname : name ∈ u.names) :
    Kept own u s (s.unbind engine name) (t.unbind engine name) := by
  have herase := h.eraseName hname
  unfold Session.unbind
  rcases h.named?_cases hname with ⟨hs, ht⟩ | ⟨hs, ht⟩
  · simp only [hs, ht]
    exact h.kept
  · simp only [hs, ht]
    exact herase.trans (herase.together.letGo hengine)

/-- Leaving a scope of the user gives up a reference to its own connection. -/
theorem Together.unhold (h : Together own u s t) {rest : List Nat}
    (hheld : s.held = u.connection :: rest) :
    Kept own u s (s.unhold engine) (t.unhold engine) := by
  have hheld' : t.held = u.connection :: rest := h.alike.held ▸ hheld
  have hrest := h.withHeld rest s.tasks t.tasks s.told t.told
  simp only [Session.unhold, hheld, hheld']
  exact hrest.trans (hrest.together.letGo hengine)

/-- A statement of the user: what it hears is the same but for the number of the task. -/
theorem Together.execute (h : Together own u s t) (statement : String) (params : List Value) :
    Agrees own u s
      (Prod.map id (Except.mapError Error.unnumbered)
        (s.execute engine u.connection statement params))
      (Prod.map id (Except.mapError Error.unnumbered)
        (t.execute engine u.connection statement params)) := by
  have hspawned := h.spawn
  unfold Session.execute
  rcases hspawned.together.handle?_cases with ⟨hs, ht⟩ | ⟨handle, hown, hs, ht⟩
  · simp only [hs, ht]
    exact ⟨rfl, hspawned⟩
  · -- the handle shares nothing, so both sessions hear the same of it
    obtain ⟨handle', outcome, hown', hsubmit⟩ := hengine.submit handle statement params hown
    simp only [hs, ht, hsubmit]
    exact ⟨outcome.mapError_toExcept _ _,
      hspawned.trans (hspawned.together.touch (some_own hown') rfl _ _)⟩

/-- A batch of the user goes the same way in both sessions, but for the number of the task if it
    breaks down. -/
theorem Together.executeBatch (h : Together own u s t) (sql : String) :
    Agrees own u s
      (Prod.map id (Except.mapError Error.unnumbered)
        (s.executeBatch engine u.connection sql))
      (Prod.map id (Except.mapError Error.unnumbered)
        (t.executeBatch engine u.connection sql)) := by
  have hspawned := h.spawn
  unfold Session.executeBatch
  rcases hspawned.together.handle?_cases with ⟨hs, ht⟩ | ⟨handle, hown, hs, ht⟩
  · simp only [hs, ht]
    exact ⟨rfl, hspawned⟩
  · obtain ⟨handle', outcome, hown', hbatch⟩ := hengine.batch handle sql hown
    simp only [hs, ht, hbatch]
    exact ⟨outcome.mapError_toExcept _ _,
      hspawned.trans (hspawned.together.touch (some_own hown') rfl _ _)⟩

end Operations

/-! ### Users do not notice each other -/

/-- Another user keeps to itself, whatever the first one does. -/
theorem Spares.hosts (h : Spares v s s') (hsorted : NamesSorted s'.names) (huv : u.Apart v)
    (hu : Hosts own u s) : Hosts own u s' where
  sorted := hsorted
  named name hname c hc :=
    hu.named name hname c ((h.named name (huv.names name hname) c).mp hc)
  handle k x hx := by
    refine hu.handle k x ?_
    rw [← hx]
    simp only [Session.handle?, h.connection u.connection huv.connection]

/-- What one user does looks like nothing to another. -/
theorem Spares.alike (h : Spares v s s') (hheld : s'.held = s.held) (huv : u.Apart v)
    (hv : Hosts own v s) (hv' : Hosts own v s') (hst : Alike u s t) : Alike u s' t where
  connection := (h.connection u.connection huv.connection).trans hst.connection
  named name hname c := (h.named name (huv.names name hname) c).trans (hst.named name hname c)
  namedElsewhere := by
    refine (exists_congr fun name => and_congr_right fun _ => ?_).trans hst.namedElsewhere
    by_cases hname : name ∈ v.names
    · -- the names of the one never stand for the connection of the other
      refine iff_of_false (fun hmem => ?_) (fun hmem => ?_)
      · exact huv.connection (hv'.named name hname _ hmem)
      · exact huv.connection (hv.named name hname _ hmem)
    · exact h.named name hname u.connection
  held := hheld.trans hst.held
  registry := h.registry.trans hst.registry
  calls := (h.calls u.number huv.number).trans hst.calls

end Session

end SqlClient
