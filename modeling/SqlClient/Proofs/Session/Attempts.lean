import SqlClient.Proofs.Session.Numbers

namespace SqlClient

/-!
# Attempts to release

A connection may be released many times over, by whoever closes it or leaves a scope with
it.  Only the first of these attempts reaches the engine, and only its caller can hear what
the engine says; the others go well.

* `Manner`, `Manner.hears` — how a release is attempted, and what its caller hears of it.
* `Session.tries` — the attempts in a step, through all programs inside it.
* `Session.Settles` — the first attempt releases the connection, the others find it gone.
* `Session.Owned.settles_close`, `settles_ending`, `settles_forgetting`, `settles_leaving` — so
  do those of the operations that can release it.
-/

/-! ### Manners -/

/-- How a release is attempted. -/
inductive Manner where
  /-- by closing the connection -/
  | close
  /-- by leaving a scope and asking how it went -/
  | exit
  /-- by a scope that is dropped, breaks off, or is given up -/
  | guard
  /-- at the end of a call with a scope of its own, whose body ended in this error -/
  | within (body : Option Error)
  /-- by giving up the last reference -/
  | forgotten

namespace Manner

/-- There is a call that answers for the release. -/
def reports : Manner → Bool
  | guard => false
  | forgotten => false
  | _ => true

/-- What the caller hears of a release that went like this.  The error of a body comes before
    that of the release, and from a scope that is just dropped nobody hears. -/
def hears (released : Except Error Unit) : Manner → Option (Except Error Unit)
  | close => some released
  | exit => some released
  | within none => some released
  | within (some e) => some (.error e)
  | guard => none
  | forgotten => none

end Manner

/-- A scope is left by asking how it went, or falls out of use. -/
def Leave.manner : Leave → Manner
  | exit => .exit
  | drop => .guard
  | panic => .guard

namespace Answer

/-- The error an answer tells of, be it that of a scope. -/
def failure? : Answer → Option Error
  | scope _ _ (.failed e) => some e
  | answer => answer.error?

/-- What an answer tells of the release in it: an error, or else, if it answers for it, that
    it went well. -/
def heard (manner : Manner) (answer : Answer) : Option (Except Error Unit) :=
  match answer.failure? with
  | some e => some (.error e)
  | none => if manner.reports then some (.ok ()) else none

end Answer

namespace Session

variable {World Handle : Type}

/-- An attempt to release a connection: how it was made, between which states, and what the
    caller heard of it. -/
structure Attempt (World Handle : Type) where
  manner : Manner
  before : Session World Handle
  after : Session World Handle
  heard : Option (Except Error Unit)

/-- What the engine was called for meanwhile. -/
def Attempt.calls (a : Attempt World Handle) : List Event :=
  a.after.log.drop a.before.log.length

section Attempts

variable (engine : Engine World Handle)

/-! ### The attempts in a step -/

/-- The last reference to a connection goes. -/
def forgetting (c : Nat) (heard : Option (Except Error Unit)) (s t : Session World Handle) :
    List (Attempt World Handle) :=
  if s.isReferenced c ∧ ¬ t.isReferenced c then [⟨.forgotten, s, t, heard⟩] else []

/-- The attempts at the end of a scope.  Whoever asks how it goes has closed the connection
    when the guard goes, which closes it once more. -/
def ending (c : Nat) (manner : Manner) (heard : Option (Except Error Unit))
    (s : Session World Handle) : List (Attempt World Handle) :=
  let closed := (s.close engine c).1
  ⟨manner, s, closed, heard⟩ ::
    if manner.reports then [⟨.guard, closed, closed.dropGuard engine c, none⟩] else []

/-- A scope with connection `d` comes to its end, which takes the session from `s` to `t`, and
    then the connection is let go of. -/
def leaving (c d : Nat) (manner : Manner) (heard : Option (Except Error Unit))
    (s t : Session World Handle) : List (Attempt World Handle) :=
  (if d = c then ending engine c manner heard s else [])
    ++ forgetting c none t (t.unhold engine)

mutual

/-- The attempts to release a connection that are made in a step, in the order of time.
    Registries close only what they own, so of a connection with users as its owners a
    shutdown is none. -/
def tries (c : Nat) (step : Step) (s : Session World Handle) : List (Attempt World Handle) :=
  let answer := (s.perform engine step).2
  match step with
  | .close name =>
    if s.named? name = some c then
      [⟨.close, s, (s.close engine c).1, answer.heard .close⟩]
    else []
  | .scope name steps leave =>
    match s.named? name with
    | none => []
    | some d =>
      let inside := ((s.hold d).runAll engine steps).1
      triesInAll c steps (s.hold d)
        ++ leaving engine c d leave.manner (answer.heard leave.manner) inside
          (inside.leaveScope engine d leave).1
  | .within name nickname steps result =>
    match s.named? name with
    | none => []
    | some d =>
      let begun := (s.hold d).bind engine nickname d
      let (inside, _, error) := begun.runUntilError engine steps
      let manner := .within (error.or result)
      forgetting c none (s.hold d) begun ++ triesBeforeError c steps begun
        ++ leaving engine c d manner (answer.heard manner) inside (inside.exitScope engine d).1
  | .cancelled name polled =>
    if polled = true ∧ s.named? name = some c then
      ending engine c .guard (answer.heard .guard) s
    else []
  | .shutdown _ => []
  | step => forgetting c (answer.heard .forgotten) s (s.perform engine step).1

/-- Those in all steps of a program. -/
def triesInAll (c : Nat) (steps : List Step) (s : Session World Handle) :
    List (Attempt World Handle) :=
  match steps with
  | [] => []
  | step :: rest => tries c step s ++ triesInAll c rest (s.perform engine step).1.tell.1

/-- Those in the steps up to the first error. -/
def triesBeforeError (c : Nat) (steps : List Step) (s : Session World Handle) :
    List (Attempt World Handle) :=
  match steps with
  | [] => []
  | step :: rest =>
    match (s.perform engine step).2.error? with
    | some _ => tries c step s
    | none => tries c step s ++ triesBeforeError c rest (s.perform engine step).1.tell.1

end

/-- A quiet step attempts a release only by giving up the last reference. -/
theorem tries_of_isQuiet {step : Step} (hstep : step.isQuiet = true) (c : Nat)
    (s : Session World Handle) :
    tries engine c step s =
      forgetting c ((s.perform engine step).2.heard .forgotten) s (s.perform engine step).1 := by
  cases step with
  | close name => exact absurd hstep (by simp [Step.isQuiet])
  | scope name steps leave => exact absurd hstep (by simp [Step.isQuiet])
  | within name nickname steps result => exact absurd hstep (by simp [Step.isQuiet])
  | cancelled name polled => exact absurd hstep (by simp [Step.isQuiet])
  | shutdown r => exact absurd hstep (by simp [Step.isQuiet])
  | _ => simp only [tries]

/-! ### What becomes of attempts -/

/-- An attempt that reaches the engine: the handle is closed in it, and the caller hears what
    the engine says, as far as one hears of a release of this kind. -/
structure Attempt.Reaches (c k : Nat) (a : Attempt World Handle) : Prop where
  logged : a.calls.count (.closed k) = 1
  heard : ∃ handle, a.before.handle? c = some (k, handle) ∧
    a.heard = a.manner.hears (engine.close a.before.world handle).2

end Attempts

/-- An attempt that finds the connection closed: the engine is not called, and all goes well. -/
structure Attempt.Idles (c k : Nat) (a : Attempt World Handle) : Prop where
  closed : a.before.isClosed c = true
  logged : .closed k ∉ a.calls
  heard : a.heard = a.manner.hears (.ok ())

/-- What attempts do to a connection from one state to another: the first of them releases
    it, if it is not released before, and the others come too late. -/
inductive Settles (engine : Engine World Handle) (c k : Nat) (s t : Session World Handle) :
    List (Attempt World Handle) → Prop where
  | kept (hs : s.isClosed c = false) (ht : t.isClosed c = false) : Settles engine c k s t []
  | released (first : Attempt World Handle) (later : List (Attempt World Handle))
      (hs : s.isClosed c = false) (ht : t.isClosed c = true)
      (hfirst : first.Reaches engine c k) (hlater : ∀ a ∈ later, a.Idles c k) :
      Settles engine c k s t (first :: later)
  | late (tried : List (Attempt World Handle)) (hs : s.isClosed c = true)
      (ht : t.isClosed c = true) (htried : ∀ a ∈ tried, a.Idles c k) :
      Settles engine c k s t tried

variable {engine : Engine World Handle} {c k : Nat} {s t u : Session World Handle}

/-- Attempts one after the other settle what they settle together: what is heard of both is heard
    in turn. -/
theorem Settles.trans {tried more : List (Attempt World Handle)}
    (h : Settles engine c k s t tried) (h' : Settles engine c k t u more) :
    Settles engine c k s u (tried ++ more) := by
  cases h with
  | kept hs ht =>
    cases h' with
    | kept _ hu => exact .kept hs hu
    | released first later _ hu hfirst hlater => exact .released first later hs hu hfirst hlater
    | late _ ht' => exact absurd (ht.symm.trans ht') (by simp)
  | released first later hs ht hfirst hlater =>
    cases h' with
    | kept ht' => exact absurd (ht.symm.trans ht') (by simp)
    | released _ _ ht' => exact absurd (ht.symm.trans ht') (by simp)
    | late _ _ hu hmore =>
      -- what has been released is closed, so all that come after it are late
      exact .released first (later ++ more) hs hu hfirst (List.forall_mem_append.mpr ⟨hlater, hmore⟩)
  | late _ hs ht htried =>
    cases h' with
    | kept ht' => exact absurd (ht.symm.trans ht') (by simp)
    | released _ _ ht' => exact absurd (ht.symm.trans ht') (by simp)
    | late _ _ hu hmore =>
      exact .late _ hs hu (List.forall_mem_append.mpr ⟨htried, hmore⟩)

/-- Where the connection stays as it is, there is nothing to attempt. -/
theorem Settles.of_isClosed_eq (h : t.isClosed c = s.isClosed c) : Settles engine c k s t [] := by
  cases hs : s.isClosed c with
  | false => exact .kept hs (h.trans hs)
  | true => exact .late [] hs (h.trans hs) (List.forall_mem_nil _)

/-- Telling the log attempts nothing, so nothing is heard of a release. -/
theorem Settles.tell {tried : List (Attempt World Handle)} (h : Settles engine c k s t tried) :
    Settles engine c k s t.tell.1 tried := by
  have htold : Settles engine c k t t.tell.1 [] := .of_isClosed_eq rfl
  simpa using h.trans htold

/-! ### Connections of their users -/

/-- A connection that its users own, and the number of its handle. -/
structure Owned (c k : Nat) (s : Session World Handle) : Prop where
  coherent : Coherent s
  number : BelongsTo c k s
  owned : s.isShared c = false

theorem Owned.changes (hs : Owned c k s) (h : Changes engine s t) : Owned c k t where
  coherent := h.coherent hs.coherent
  number := (h.closings hs.number).1
  owned := (h.moves.isShared_eq hs.number.opened).trans hs.owned

/-- An attempt logs the closing of the handle if it takes it away. -/
theorem Owned.count_calls (hs : Owned c k s) (h : Changes engine s t) (manner : Manner)
    (heard : Option (Except Error Unit)) :
    (Attempt.mk manner s t heard).calls.count (.closed k) + t.uses c = s.uses c := by
  obtain ⟨_, calls, hlog, hcount⟩ := h.closings hs.number
  simpa [Attempt.calls, hlog] using hcount

/-- A connection that is open has a handle for its engine to close. -/
private theorem Owned.exists_handle? (hs : Owned c k s) (hopen : s.isClosed c = false) :
    ∃ handle, s.handle? c = some (k, handle) := by
  cases hc : s.handle? c with
  | none => simp [isClosed, hc] at hopen
  | some p =>
    obtain ⟨n, handle⟩ := p
    obtain rfl := hs.number.number n (by rw [handleNumber?, hc]; rfl)
    exact ⟨handle, rfl⟩

/-- What an attempt does that leaves the connection closed. -/
theorem Owned.settles_closed (hs : Owned c k s) (h : Changes engine s t)
    (ht : t.isClosed c = true) {manner : Manner} {heard : Option (Except Error Unit)}
    (hopen : ∀ handle, s.handle? c = some (k, handle) →
      heard = manner.hears (engine.close s.world handle).2)
    (hclosed : s.isClosed c = true → heard = manner.hears (.ok ())) :
    Settles engine c k s t [⟨manner, s, t, heard⟩] := by
  have hcount := hs.count_calls h manner heard
  rw [uses_of_closed ht] at hcount
  -- the count of closings tells an attempt that reaches the engine from one that is late
  cases hc : s.isClosed c with
  | false =>
    obtain ⟨handle, hhandle⟩ := hs.exists_handle? hc
    rw [uses_of_open hc] at hcount
    have hfirst : (Attempt.mk manner s t heard).Reaches engine c k :=
      ⟨hcount, handle, hhandle, hopen handle hhandle⟩
    exact .released _ [] hc ht hfirst (List.forall_mem_nil _)
  | true =>
    rw [uses_of_closed hc] at hcount
    have hlate : (Attempt.mk manner s t heard).Idles c k :=
      ⟨hc, List.count_eq_zero.mp hcount, hclosed hc⟩
    exact .late _ hc ht (List.forall_mem_singleton.mpr hlate)

/-! ### Closing and forgetting -/

/-- What closing a connection answers to its users: what the engine says, if the connection
    is open, and else that all is well. -/
theorem close_snd (engine : Engine World Handle) (howned : s.isShared c = false) :
    (∀ n handle, s.handle? c = some (n, handle) →
      (s.close engine c).2 = (engine.close s.world handle).2) ∧
    (s.isClosed c = true → (s.close engine c).2 = .ok ()) := by
  have hclose : s.close engine c = s.release engine c := by simp [close, howned]
  rw [hclose]
  constructor
  · intro n handle hhandle
    simp only [release, hhandle]
    rfl
  · intro hclosed
    have hnone : s.handle? c = none := by simpa [isClosed] using hclosed
    simp [release, hnone]

/-- Closing a connection is no business of another, which stays open or closed. -/
theorem isClosed_close_of_ne {d : Nat} (h : d ≠ c) (s : Session World Handle) :
    (s.close engine d).1.isClosed c = s.isClosed c := by
  refine Bool.eq_iff_iff.mpr ((isClosed_close engine d c s).trans (or_iff_right ?_))
  rintro ⟨hc, _⟩
  exact h hc.symm

/-- Closing a connection is one attempt to release it, in whatever manner it is made. -/
theorem Owned.settles_close (hs : Owned c k s) {manner : Manner}
    {heard : Option (Except Error Unit)} (hheard : heard = manner.hears (s.close engine c).2) :
    Settles engine c k s (s.close engine c).1 [⟨manner, s, (s.close engine c).1, heard⟩] := by
  have hclosed : (s.close engine c).1.isClosed c = true :=
    (isClosed_close engine c c s).mpr (.inl ⟨rfl, hs.owned⟩)
  obtain ⟨hopen, hlate⟩ := close_snd engine hs.owned
  refine hs.settles_closed (.single (.close s c)) hclosed (fun handle hhandle => ?_) fun hc => ?_
  · rw [hheard, hopen k handle hhandle]
  · rw [hheard, hlate hc]

/-- Giving up references may be an attempt to release a connection, of which nobody hears. -/
theorem Owned.settles_forgetting (hs : Owned c k s) (h : Changes engine s t)
    (hby : ClosedBy False c s t) {heard : Option (Except Error Unit)}
    (hheard : s.isReferenced c = true → t.isReferenced c = false → heard = none) :
    Settles engine c k s t (forgetting c heard s t) := by
  have hiff : t.isClosed c = true ↔ s.isClosed c = true ∨ t.isReferenced c = false := by
    simpa [ClosedBy] using hby
  unfold forgetting
  split
  · rename_i hgone
    obtain ⟨hbefore, hafter⟩ := hgone
    rw [Bool.not_eq_true] at hafter
    have hnone := hheard hbefore hafter
    exact hs.settles_closed h (hiff.mpr (.inr hafter)) (fun _ _ => hnone) fun _ => hnone
  · rename_i hkept
    -- what is open is referred to, and what is referred to afterwards is not closed meanwhile
    refine .of_isClosed_eq (Bool.eq_iff_iff.mpr (hiff.trans (or_iff_left_of_imp ?_)))
    intro hafter
    by_contra hopen
    have hbefore := hs.coherent.isReferenced (Bool.not_eq_true _ ▸ hopen)
    exact hkept ⟨hbefore, by simp [hafter]⟩

/-- The end of a scope: the guard finds closed what somebody who asks has closed. -/
theorem Owned.settles_ending (hs : Owned c k s) {manner : Manner}
    {heard : Option (Except Error Unit)} (hheard : heard = manner.hears (s.close engine c).2) :
    Settles engine c k s (s.close engine c).1 (ending engine c manner heard s) := by
  have hfirst := hs.settles_close hheard
  simp only [ending]
  split
  · have hclosed : Owned c k (s.close engine c).1 := hs.changes (.single (.close s c))
    have hguard : Settles engine c k (s.close engine c).1
        ((s.close engine c).1.dropGuard engine c)
        [⟨.guard, (s.close engine c).1, (s.close engine c).1.dropGuard engine c, none⟩] :=
      hclosed.settles_close rfl
    have hsame : (s.close engine c).1.dropGuard engine c = (s.close engine c).1 := by
      rw [dropGuard, close_close]
    rw [hsame] at hguard ⊢
    exact hfirst.trans hguard
  · exact hfirst

/-- Leaving a scope: if it is one of the connection's, the connection is closed. -/
theorem Owned.settles_leaving (hs : Owned c k s) {d : Nat} {manner : Manner}
    {heard : Option (Except Error Unit)}
    (hheard : d = c → heard = manner.hears (s.close engine d).2) :
    Settles engine c k s ((s.close engine d).1.unhold engine)
      (leaving engine c d manner heard s (s.close engine d).1) := by
  have hchange : Changes engine s (s.close engine d).1 := .single (.close s d)
  have hclosed : Owned c k (s.close engine d).1 := hs.changes hchange
  have hleave : Changes engine (s.close engine d).1 ((s.close engine d).1.unhold engine) :=
    .single (.unhold _)
  have hlast := hclosed.settles_forgetting hleave
    (closedBy_unhold hclosed.coherent hclosed.number.opened) fun _ _ => rfl
  refine Settles.trans ?_ hlast
  split
  · rename_i hd
    subst hd
    exact hs.settles_ending (hheard rfl)
  · rename_i hd
    exact .of_isClosed_eq (isClosed_close_of_ne hd s)

end Session

end SqlClient
