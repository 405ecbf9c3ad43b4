import SqlClient.Proofs.Session.Coherence

namespace SqlClient.Session

/-!
# The life of a handle

In the log of a session every handle has one life: it is opened, asked to run statements,
and closed.  A handle that could not be opened is never spoken to.

* `callsTo` — the calls that went to one handle.
* `Stage` — where a handle stands in its life, given which opens go well.
* `Move.stage`, `Changes.stage` — every move takes one handle one stage further.
* `Stage.of_all_closed` — once all connections are closed, all lives are over.
-/

variable {World Handle : Type}

/-! ### Calls to one handle -/

/-- The calls that went to one handle, in order. -/
def callsTo (k : Nat) (log : List Event) : List Event := log.filter (·.handle = k)

/-- A call to a handle is the last of the calls to it. -/
theorem callsTo_append_self {k : Nat} {e : Event} (h : e.handle = k) (log : List Event) :
    callsTo k (log ++ [e]) = callsTo k log ++ [e] := by
  simp [callsTo, h]

/-- A call to another handle is none of the calls to it. -/
theorem callsTo_append_of_ne {k : Nat} {e : Event} (h : e.handle ≠ k) (log : List Event) :
    callsTo k (log ++ [e]) = callsTo k log := by
  simp [callsTo, h]

/-- The calls to a handle in use: it was opened, and then ran statements. -/
def IsLife (k : Nat) (calls : List Event) : Prop :=
  ∃ asked : List Event, (∀ e ∈ asked, e.isStatement = true) ∧ calls = .opened k :: asked

/-- The calls to a handle that is gone: it was closed after all its statements. -/
def IsWholeLife (k : Nat) (calls : List Event) : Prop :=
  ∃ asked : List Event,
    (∀ e ∈ asked, e.isStatement = true) ∧ calls = .opened k :: asked ++ [.closed k]

/-- The life of a handle begins with its opening. -/
private theorem isLife_opened (k : Nat) : IsLife k [.opened k] := ⟨[], by simp, rfl⟩

/-- A handle that was asked for a statement or a batch is still in use. -/
theorem IsLife.ask {k : Nat} {calls : List Event} (h : IsLife k calls) {e : Event}
    (he : e.isStatement = true) : IsLife k (calls ++ [e]) := by
  obtain ⟨asked, hasked, rfl⟩ := h
  refine ⟨asked ++ [e], fun e' he' => ?_, rfl⟩
  rcases List.mem_append.mp he' with hmem | hmem
  · exact hasked e' hmem
  · rw [List.mem_singleton.mp hmem]
    exact he

/-- Closing a handle ends its life, and nothing comes after it. -/
theorem IsLife.close {k : Nat} {calls : List Event} (h : IsLife k calls) :
    IsWholeLife k (calls ++ [.closed k]) := by
  obtain ⟨asked, hasked, rfl⟩ := h
  exact ⟨asked, hasked, rfl⟩

/-! ### Stages -/

/-- Whether an attempt to open a handle goes well depends on its number alone. -/
def OpensBy (engine : Engine World Handle) (opens : Nat → Prop) : Prop :=
  ∀ world number options,
    (∃ handle, (engine.openHandle world number options).2 = .done handle) ↔ opens number

/-- Where the handle with number `k` stands, where `opens` tells the attempts that go well. -/
inductive Stage (opens : Nat → Prop) (s : Session World Handle) (k : Nat) : Prop where
  /-- nobody has tried to open it -/
  | unasked (hk : k = 0 ∨ s.attempts < k) (hcalls : callsTo k s.log = [])
      (hnone : ∀ c, s.handleNumber? c ≠ some k)
  /-- the attempt to open it failed -/
  | missed (hpos : 0 < k) (hle : k ≤ s.attempts) (hopens : ¬ opens k)
      (hcalls : callsTo k s.log = [.opened k]) (hnone : ∀ c, s.handleNumber? c ≠ some k)
  /-- one connection has it -/
  | alive (hpos : 0 < k) (hle : k ≤ s.attempts) (hopens : opens k)
      (hcalls : IsLife k (callsTo k s.log)) (c : Nat)
      (honly : ∀ d, s.handleNumber? d = some k ↔ d = c)
  /-- it has been closed -/
  | gone (hpos : 0 < k) (hle : k ≤ s.attempts) (hopens : opens k)
      (hcalls : IsWholeLife k (callsTo k s.log)) (hnone : ∀ c, s.handleNumber? c ≠ some k)

/-- At the start no handle has begun its life. -/
theorem start_stage (opens : Nat → Prop) (world : World) (registry : RegistryName → Options)
    (k : Nat) : Stage opens (start world registry : Session World Handle) k := by
  refine .unasked ?_ rfl fun c => ?_
  · exact k.eq_zero_or_pos
  · simp [handleNumber?, handle?, start]

section Stages

variable {opens : Nat → Prop} {s t : Session World Handle} {k : Nat}

/-- A handle that a move has nothing to do with stays where it is. -/
theorem Stage.keep (h : Stage opens s k) (hcalls : callsTo k t.log = callsTo k s.log)
    (hattempts : k ≤ t.attempts ↔ k ≤ s.attempts)
    (hnumber : ∀ c, t.handleNumber? c = some k ↔ s.handleNumber? c = some k) :
    Stage opens t k := by
  cases h with
  | unasked hk hs hnone =>
    exact .unasked (by omega) (hcalls.trans hs) fun c => mt (hnumber c).mp (hnone c)
  | missed hpos hle hopens hs hnone =>
    exact .missed hpos (hattempts.mpr hle) hopens (hcalls.trans hs)
      fun c => mt (hnumber c).mp (hnone c)
  | alive hpos hle hopens hs c honly =>
    exact .alive hpos (hattempts.mpr hle) hopens (hcalls ▸ hs) c
      fun d => (hnumber d).trans (honly d)
  | gone hpos hle hopens hs hnone =>
    exact .gone hpos (hattempts.mpr hle) hopens (hcalls ▸ hs) fun c => mt (hnumber c).mp (hnone c)

/-- The handle to be opened next has had no calls, as its number is above all attempts. -/
theorem Stage.next (h : Stage opens s (s.attempts + 1)) :
    callsTo (s.attempts + 1) s.log = [] ∧ ∀ c, s.handleNumber? c ≠ some (s.attempts + 1) := by
  cases h with
  | unasked hk hcalls hnone => exact ⟨hcalls, hnone⟩
  | missed _ hle => exact absurd hle (Nat.not_succ_le_self _)
  | alive _ hle => exact absurd hle (Nat.not_succ_le_self _)
  | gone _ hle => exact absurd hle (Nat.not_succ_le_self _)

/-- The handle of an open connection is in use, and that connection alone has it. -/
theorem Stage.of_handleNumber? (h : Stage opens s k) {c : Nat}
    (hc : s.handleNumber? c = some k) :
    0 < k ∧ k ≤ s.attempts ∧ opens k ∧ IsLife k (callsTo k s.log) ∧
      ∀ d, s.handleNumber? d = some k ↔ d = c := by
  cases h with
  | unasked _ _ hnone => exact absurd hc (hnone c)
  | missed _ _ _ _ hnone => exact absurd hc (hnone c)
  | alive hpos hle hopens hcalls c' honly =>
    obtain rfl := (honly c).mp hc
    exact ⟨hpos, hle, hopens, hcalls, honly⟩
  | gone _ _ _ _ hnone => exact absurd hc (hnone c)

/-- Once all connections are closed, no handle is in use. -/
theorem Stage.of_all_closed (h : Stage opens s k) (hclosed : ∀ c, s.isClosed c = true) :
    (k = 0 ∨ s.attempts < k) ∧ callsTo k s.log = [] ∨
    ¬ opens k ∧ callsTo k s.log = [.opened k] ∨
    opens k ∧ IsWholeLife k (callsTo k s.log) := by
  cases h with
  | unasked hk hcalls _ => exact .inl ⟨hk, hcalls⟩
  | missed _ _ hopens hcalls _ => exact .inr (.inl ⟨hopens, hcalls⟩)
  | alive _ _ _ _ c honly =>
    -- the connection that has the handle would be open
    have hopen : s.handleNumber? c = some k := (honly c).mpr rfl
    rw [isClosed_eq_true.mp (hclosed c)] at hopen
    exact absurd hopen (by simp)
  | gone _ _ hopens hcalls _ => exact .inr (.inr ⟨hopens, hcalls⟩)

end Stages

/-! ### One stage further -/

section Further

variable {opens : Nat → Prop} {s t : Session World Handle}

/-- A call to one handle leaves the calls to the others as they are. -/
theorem callsTo_of_ne {e : Event} (hlog : t.log = s.log ++ [e]) {k : Nat} (hk : k ≠ e.handle) :
    callsTo k t.log = callsTo k s.log := by
  rw [hlog, callsTo_append_of_ne hk.symm]

/-- A call to a handle is added behind those that it had. -/
theorem callsTo_of_eq {e : Event} (hlog : t.log = s.log ++ [e]) {k : Nat} (hk : e.handle = k) :
    callsTo k t.log = callsTo k s.log ++ [e] := by
  rw [hlog, callsTo_append_self hk]

/-- An attempt that goes well takes the next handle into use. -/
theorem Stage.open (h : ∀ k, Stage opens s k) (hopens : opens (s.attempts + 1))
    (hlog : t.log = s.log ++ [.opened (s.attempts + 1)]) (hattempts : t.attempts = s.attempts + 1)
    (hnumber : ∀ c, t.handleNumber? c =
      if c = s.connections.length then some (s.attempts + 1) else s.handleNumber? c) (k : Nat) :
    Stage opens t k := by
  obtain ⟨hcalls, hnone⟩ := (h (s.attempts + 1)).next
  by_cases hk : k = s.attempts + 1
  · subst hk
    refine .alive (by omega) (by omega) hopens ?_ s.connections.length fun d => ?_
    · rw [callsTo_of_eq hlog (Event.handle_opened _), hcalls]
      exact isLife_opened _
    · rw [hnumber]
      split
      · rename_i hd
        simp [hd]
      · rename_i hd
        simp [hd, hnone d]
  · refine (h k).keep (callsTo_of_ne hlog hk) (by omega) fun c => ?_
    rw [hnumber]
    split
    · rename_i hc
      -- the new connection has the new handle, and none of the others has it
      constructor
      · intro heq
        exact absurd (Option.some.inj heq).symm hk
      · intro hs
        exact absurd hc (lt_of_handleNumber?_eq_some hs).ne
    · rfl

/-- An attempt that fails leaves the next handle with that one call. -/
theorem Stage.miss (h : ∀ k, Stage opens s k) (hopens : ¬ opens (s.attempts + 1))
    (hlog : t.log = s.log ++ [.opened (s.attempts + 1)]) (hattempts : t.attempts = s.attempts + 1)
    (hnumber : ∀ c, t.handleNumber? c = s.handleNumber? c) (k : Nat) : Stage opens t k := by
  obtain ⟨hcalls, hnone⟩ := (h (s.attempts + 1)).next
  by_cases hk : k = s.attempts + 1
  · subst hk
    refine .missed (by omega) (by omega) hopens ?_ fun c => ?_
    · rw [callsTo_of_eq hlog (Event.handle_opened _), hcalls]
      rfl
    · rw [hnumber]
      exact hnone c
  · exact (h k).keep (callsTo_of_ne hlog hk) (by omega) fun c => by rw [hnumber]

/-- A statement goes to a handle in use, which stays in use. -/
theorem Stage.ask (h : ∀ k, Stage opens s k) {c number : Nat}
    (hc : s.handleNumber? c = some number) {event : Event} (hstatement : event.isStatement = true)
    (hhandle : event.handle = number) (hlog : t.log = s.log ++ [event])
    (hattempts : t.attempts = s.attempts) (hnumber : ∀ d, t.handleNumber? d = s.handleNumber? d)
    (k : Nat) : Stage opens t k := by
  obtain ⟨hpos, hle, hopens, hlife, honly⟩ := (h number).of_handleNumber? hc
  by_cases hk : k = number
  · subst hk
    refine .alive hpos (by omega) hopens ?_ c fun d => ?_
    · rw [callsTo_of_eq hlog hhandle]
      exact hlife.ask hstatement
    · rw [hnumber]
      exact honly d
  · have hne : k ≠ event.handle := fun heq => hk (heq.trans hhandle)
    exact (h k).keep (callsTo_of_ne hlog hne) (by omega) fun c => by rw [hnumber]

/-- Releasing a handle in use ends its life, and its connection has none after it. -/
theorem Stage.release (h : ∀ k, Stage opens s k) {c number : Nat}
    (hc : s.handleNumber? c = some number) (hlog : t.log = s.log ++ [.closed number])
    (hattempts : t.attempts = s.attempts)
    (hnumber : ∀ d, t.handleNumber? d = if d = c then none else s.handleNumber? d) (k : Nat) :
    Stage opens t k := by
  obtain ⟨hpos, hle, hopens, hlife, honly⟩ := (h number).of_handleNumber? hc
  by_cases hk : k = number
  · subst hk
    refine .gone hpos (by omega) hopens ?_ fun d => ?_
    · rw [callsTo_of_eq hlog (Event.handle_closed _)]
      exact hlife.close
    · rw [hnumber]
      split
      · simp
      · rename_i hd
        exact mt (honly d).mp hd
  · refine (h k).keep (callsTo_of_ne hlog hk) (by omega) fun d => ?_
    rw [hnumber]
    split
    · rename_i hd
      -- the connection that was closed had the handle that is released, and no other one
      constructor
      · intro hnone
        exact absurd hnone (by simp)
      · intro hs
        rw [hd] at hs
        exact absurd (Option.some.inj (hs.symm.trans hc)) hk
    · rfl

variable {engine : Engine World Handle}

/-- **One stage further.** A move takes the handle it is about from one stage to the next,
    and leaves all others where they are. -/
theorem Move.stage (hengine : OpensBy engine opens) (hmove : Move engine s t)
    (h : ∀ k, Stage opens s k) : ∀ k, Stage opens t k := by
  cases hmove with
  | refer names held registry tasks told =>
    exact fun k => (h k).keep rfl Iff.rfl fun _ => Iff.rfl
  | opened ownership options world handle hopen =>
    exact Stage.open h ((hengine _ _ _).mp ⟨handle, hopen⟩) rfl rfl (handleNumber?_append rfl)
  | missed options world hmissed =>
    refine Stage.miss h (fun hopens => ?_) rfl rfl fun _ => rfl
    obtain ⟨handle, hdone⟩ := (hengine s.world (s.attempts + 1) options).mpr hopens
    exact hmissed handle hdone
  | asked c number handle handle' world event hc hstatement hhandle =>
    have hnumber : s.handleNumber? c = some number := by
      rw [handleNumber?, hc]
      rfl
    exact Stage.ask h hnumber hstatement hhandle rfl rfl (handleNumber?_setHandle_some hc handle')
  | released c number handle world hc =>
    have hnumber : s.handleNumber? c = some number := by
      rw [handleNumber?, hc]
      rfl
    exact Stage.release h hnumber rfl rfl (handleNumber?_setHandle_none s c)

/-- Changes lead every handle from one stage of its life to the same or a later one. -/
theorem Changes.stage (hengine : OpensBy engine opens) (hchanges : Changes engine s t)
    (h : ∀ k, Stage opens s k) : ∀ k, Stage opens t k :=
  hchanges.keeps (fun _ _ hmove => hmove.stage hengine) h

end Further

end SqlClient.Session
