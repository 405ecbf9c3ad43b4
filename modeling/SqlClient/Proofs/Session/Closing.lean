import SqlClient.Engine.Scripted
import SqlClient.Proofs.Session.Forgetting

namespace SqlClient.Session

/-!
# Who closes a connection

A connection that is still referred to is closed by its users, if they own it, or by the
registry that opened it, and by nobody else.  A closed connection stays closed.

* `closes` — the steps that close a connection, through all programs inside them.
* `ClosedBy` — what is closed from one state to another, and why.
* `perform_closedBy` — a step closes what it says and what nothing refers to afterwards.
* `Reachable` — the states in which a step of a program is done.
* `closed_iff_by_owner_or_registry` — the whole account, in every reachable state.
-/

variable {World Handle : Type} (engine : Engine World Handle)

/-! ### Steps that close -/

/-- The name stands for a connection that its users may close. -/
def Owns (s : Session World Handle) (name : String) (c : Nat) : Prop :=
  s.named? name = some c ∧ s.isShared c = false

mutual

/-- A connection is closed in a step by those who may.  Its users close it if they own it:
    by asking, by leaving a scope in any way, or by giving up a scope they have entered.  The
    registry that opened it closes it by shutting down.  And so does any step of a scope's
    program. -/
def closes (c : Nat) (step : Step) (s : Session World Handle) : Prop :=
  match step with
  | .close name => s.Owns name c
  | .scope name steps _ =>
    s.Owns name c ∨ ∃ d, s.named? name = some d ∧ closesAny c steps (s.hold d)
  | .within name nickname steps _ =>
    s.Owns name c ∨
      ∃ d, s.named? name = some d ∧
        closesBeforeError c steps ((s.hold d).bind engine nickname d)
  | .cancelled name polled => polled = true ∧ s.Owns name c
  | .shutdown r => (s.registry r).slot = some c ∧ s.isShared c = true
  | _ => False

/-- One of the steps closes the connection. -/
def closesAny (c : Nat) (steps : List Step) (s : Session World Handle) : Prop :=
  match steps with
  | [] => False
  | step :: rest => closes c step s ∨ closesAny c rest (s.perform engine step).1.tell.1

/-- One of the steps up to the first error closes the connection. -/
def closesBeforeError (c : Nat) (steps : List Step) (s : Session World Handle) : Prop :=
  match steps with
  | [] => False
  | step :: rest =>
    closes c step s ∨
      (s.perform engine step).2.error? = none ∧
        closesBeforeError c rest (s.perform engine step).1.tell.1

end

/-- A step that asks nothing of a connection by name does not close it by hand. -/
private theorem not_closes_of_isQuiet {step : Step} (hstep : step.isQuiet = true) (c : Nat)
    (s : Session World Handle) : ¬ closes engine c step s := by
  cases step <;> simp_all [Step.isQuiet, closes]

/-! ### What closes a connection -/

variable {engine}

/-- From one state to another a connection is closed if `P` says so, or if nothing refers to
    it any more, and not otherwise; it is never opened again. -/
def ClosedBy (P : Prop) (c : Nat) (s t : Session World Handle) : Prop :=
  t.isClosed c = true ↔ s.isClosed c = true ∨ P ∨ t.isReferenced c = false

/-- What is said of why a connection was closed may be said in other words. -/
theorem ClosedBy.congr {P Q : Prop} {c : Nat} {s t : Session World Handle}
    (h : ClosedBy P c s t) (hPQ : P ↔ Q) : ClosedBy Q c s t := by
  unfold ClosedBy at h ⊢
  rw [h, hPQ]

/-- Where nothing changes, nothing is closed that is referred to. -/
theorem closedBy_refl {P : Prop} {s : Session World Handle} (hs : Coherent s) (c : Nat)
    (hP : ¬ P) : ClosedBy P c s s := by
  refine ⟨.inl, ?_⟩
  rintro (hclosed | hp | hforgotten)
  · exact hclosed
  · exact absurd hp hP
  · exact hs.isClosed hforgotten

/-- To account for a change it is enough to see what it closes. -/
theorem Changes.closedBy {P : Prop} {c : Nat} {s t : Session World Handle}
    (h : Changes engine s t) (hs : Coherent s) (hc : c < s.connections.length)
    (honly : t.isClosed c = true → s.isClosed c = true ∨ P ∨ t.isReferenced c = false)
    (hP : P → t.isClosed c = true) : ClosedBy P c s t := by
  refine ⟨honly, ?_⟩
  rintro (hclosed | hp | hforgotten)
  · exact h.moves.isClosed_of_isClosed hc hclosed
  · exact hP hp
  -- a coherent session keeps nothing open that nothing refers to
  · exact (h.coherent hs).isClosed hforgotten

/-- A change accounts for a connection if it closes it for the reason given, or once it is not
    referred to, and if it does close it for the reason. -/
theorem Change.closedBy {P : Prop} {c : Nat} {s t : Session World Handle}
    (h : Change engine s t) (hs : Coherent s) (hc : c < s.connections.length)
    (honly : t.isClosed c = true → s.isClosed c = true ∨ P ∨ t.isReferenced c = false)
    (hP : P → t.isClosed c = true) : ClosedBy P c s t :=
  Changes.closedBy (.single h) hs hc honly hP

/-- What is closed by one change after another is closed by the first, or is open then and closed
    by the second. -/
theorem ClosedBy.trans {P Q : Prop} {c : Nat} {s t u : Session World Handle}
    (h : ClosedBy P c s t) (h' : ClosedBy Q c t u)
    (hforgotten : t.isReferenced c = false → u.isReferenced c = false) :
    ClosedBy (P ∨ Q) c s u := by
  unfold ClosedBy at h h' ⊢
  rw [h', h]
  constructor
  · rintro ((hs | hp | ht) | hq | hu)
    · exact .inl hs
    · exact .inr (.inl (.inl hp))
    · exact .inr (.inr (hforgotten ht))
    · exact .inr (.inl (.inr hq))
    · exact .inr (.inr hu)
  · rintro (hs | (hp | hq) | hu)
    · exact .inl (.inl hs)
    · exact .inl (.inr (.inl hp))
    · exact .inr (.inl hq)
    · exact .inr (.inr hu)

/-- Letting go of a connection closes it only if nothing refers to it. -/
theorem isClosed_of_letGo {s : Session World Handle} {c d : Nat}
    (h : (s.letGo engine d).isClosed c = true) :
    s.isClosed c = true ∨ (s.letGo engine d).isReferenced c = false := by
  rw [(letGo_references engine d s).isReferenced]
  unfold letGo at h
  split at h
  · exact .inl h
  · rename_i hd
    rcases (isClosed_release engine d c s).mp h with rfl | hclosed
    · exact .inr (Bool.not_eq_true _ ▸ hd)
    · exact .inl hclosed

/-- What a new binding of a name closes has lost that name, and has no other reference. -/
theorem isClosed_of_bind {s : Session World Handle} {name : String} {c d : Nat}
    (h : (s.bind engine name d).isClosed c = true) :
    s.isClosed c = true ∨ (s.bind engine name d).isReferenced c = false := by
  unfold bind at h ⊢
  cases hname : s.named? name with
  | none =>
    rw [hname] at h
    exact .inl h
  | some old =>
    rw [hname] at h
    exact isClosed_of_letGo h

/-- So has what is closed as its name is given up. -/
private theorem isClosed_of_unbind {s : Session World Handle} {name : String} {c : Nat}
    (h : (s.unbind engine name).isClosed c = true) :
    s.isClosed c = true ∨ (s.unbind engine name).isReferenced c = false := by
  unfold unbind at h ⊢
  cases hname : s.named? name with
  | none =>
    rw [hname] at h
    exact .inl h
  | some old =>
    rw [hname] at h
    exact isClosed_of_letGo h

/-- So has what is closed as its scope is left. -/
private theorem isClosed_of_unhold {s : Session World Handle} {c : Nat}
    (h : (s.unhold engine).isClosed c = true) :
    s.isClosed c = true ∨ (s.unhold engine).isReferenced c = false := by
  unfold unhold at h ⊢
  cases hheld : s.held with
  | nil =>
    simp only [hheld] at h
    exact .inl h
  | cons d rest =>
    simp only [hheld] at h
    exact isClosed_of_letGo h

/-- Opening a connection closes none, whether it goes well or not. -/
theorem isClosed_of_connect {s t : Session World Handle} {ownership : Ownership}
    {options : Options} {result : Except Error Nat}
    (ht : s.connect engine ownership options = (t, result)) {c : Nat}
    (hc : c < s.connections.length) (h : t.isClosed c = true) : s.isClosed c = true := by
  rw [isClosed_eq_true] at h ⊢
  rcases connect_cases engine ownership options s with ⟨_, _, _, heq⟩ | ⟨_, _, _, heq⟩
  · rw [ht] at heq
    obtain ⟨rfl, rfl⟩ := Prod.mk.inj heq
    rw [handleNumber?_append rfl, if_neg hc.ne] at h
    exact h
  · rw [ht] at heq
    obtain ⟨rfl, rfl⟩ := Prod.mk.inj heq
    exact h

/-- A request to a registry closes nothing. -/
private theorem isClosed_of_acquire {s : Session World Handle} {r : RegistryName} {c : Nat}
    (hc : c < s.connections.length) (h : (s.acquire engine r).1.isClosed c = true) :
    s.isClosed c = true := by
  rcases acquire_cases engine r s with ⟨d, _, heq⟩ | ⟨t, d, _, ht, heq⟩ | ⟨t, e, _, ht, heq⟩
  · rw [heq] at h
    exact h
  · rw [heq] at h
    exact isClosed_of_connect ht hc h
  · rw [heq] at h
    exact isClosed_of_connect ht hc h

/-- A quiet change closes a connection only by forgetting it. -/
theorem QuietChange.closedBy {s t : Session World Handle} (h : QuietChange engine s t)
    (hs : Coherent s) {c : Nat} (hc : c < s.connections.length) : ClosedBy False c s t := by
  have hchange : Changes engine s t := .single (.quiet s t h)
  refine hchange.closedBy hs hc (fun hclosed => ?_) False.elim
  -- such a change closes nothing by hand, so it is enough to see what it lets go of
  suffices s.isClosed c = true ∨ t.isReferenced c = false from this.imp_right .inr
  cases h with
  | connect name options =>
    rcases heq : s.connect engine .owned options with ⟨u, result⟩
    rw [heq] at hclosed
    cases result with
    | error e => exact .inl (isClosed_of_connect heq hc hclosed)
    | ok d => exact (isClosed_of_bind hclosed).imp_left (isClosed_of_connect heq hc)
  | bind name d _ => exact isClosed_of_bind hclosed
  | unbind name => exact isClosed_of_unbind hclosed
  | execute d statement params =>
    rw [isClosed_execute] at hclosed
    exact .inl hclosed
  | batch d sql =>
    rw [isClosed_executeBatch] at hclosed
    exact .inl hclosed
  | acquire r => exact .inl (isClosed_of_acquire hc hclosed)
  | tell => exact .inl hclosed

/-- Without scopes and closing by hand, a connection is closed only once it is not referred to. -/
theorem QuietChanges.closedBy {s t : Session World Handle} (h : QuietChanges engine s t)
    (hs : Coherent s) {c : Nat} (hc : c < s.connections.length) : ClosedBy False c s t := by
  induction h with
  | refl => exact closedBy_refl hs c not_false
  | tail hchanges hchange ih =>
    have hu := (QuietChanges.changes hchanges).coherent hs
    have hcu := hc.trans_le (QuietChanges.changes hchanges).moves.length_le
    -- what is forgotten on the way is forgotten at the end
    refine (ih.trans (hchange.closedBy hu hcu) fun hforgotten => ?_).congr (or_self_iff)
    rw [← Bool.not_eq_true] at hforgotten ⊢
    exact mt (hchange.isReferenced hu hcu) hforgotten

/-- Entering a scope closes nothing, as it only adds a reference. -/
theorem closedBy_hold (engine : Engine World Handle) {s : Session World Handle}
    (hs : Coherent s) {c d : Nat} (hd : s.isReferenced d = true) (hc : c < s.connections.length) :
    ClosedBy False c s (s.hold d) := by
  have hchange : Change engine s (s.hold d) := .hold s d hd
  exact hchange.closedBy hs hc .inl False.elim

/-- Leaving a scope closes a connection only by forgetting it. -/
theorem closedBy_unhold {s : Session World Handle} (hs : Coherent s) {c : Nat}
    (hc : c < s.connections.length) : ClosedBy False c s (s.unhold engine) := by
  have hchange : Change engine s (s.unhold engine) := .unhold s
  exact hchange.closedBy hs hc (fun h => (isClosed_of_unhold h).imp_right .inr) False.elim

/-- Closing closes the connection, if its users own it. -/
theorem closedBy_close {s : Session World Handle} (hs : Coherent s) {c : Nat} (d : Nat)
    (hc : c < s.connections.length) :
    ClosedBy (c = d ∧ s.isShared d = false) c s (s.close engine d).1 := by
  have hchange : Change engine s (s.close engine d).1 := .close s d
  refine hchange.closedBy hs hc (fun h => ?_)
    fun h => (isClosed_close engine d c s).mpr (.inl h)
  rcases (isClosed_close engine d c s).mp h with howned | hclosed
  · exact .inr (.inl howned)
  · exact .inl hclosed

/-- Shutting down closes the connection in the slot. -/
theorem closedBy_shutdown {s : Session World Handle} (hs : Coherent s) {c : Nat}
    (r : RegistryName) (hc : c < s.connections.length) :
    ClosedBy ((s.registry r).slot = some c ∧ s.isShared c = true) c s
      (s.shutdown engine r).1 := by
  have hchange : Change engine s (s.shutdown engine r).1 := .shutdown s r
  refine hchange.closedBy hs hc (fun h => ?_) fun ⟨hslot, _⟩ => ?_
  · unfold shutdown at h
    cases hslot : (s.registry r).slot with
    | none =>
      simp only [hslot] at h
      exact .inl h
    | some d =>
      simp only [hslot] at h
      -- only a connection of the registry is in its slot
      rcases (isClosed_release engine d c _).mp h with rfl | hclosed
      · exact .inr (.inl ⟨rfl, hs.shared r c hslot⟩)
      · exact .inl hclosed
  · simp only [shutdown, hslot]
    exact (isClosed_release engine c c _).mpr (.inl rfl)

/-! ### What a step closes -/

/-- Changes in the middle of a step, and those after them. -/
theorem ClosedBy.trans_changes {P Q : Prop} {c : Nat} {s t u : Session World Handle}
    (h : ClosedBy P c s t) (hs : Coherent s) (hc : c < s.connections.length)
    (hst : Changes engine s t) (htu : Changes engine t u)
    (h' : Coherent t → c < t.connections.length → ClosedBy Q c t u) :
    ClosedBy (P ∨ Q) c s u := by
  have ht : Coherent t := hst.coherent hs
  have hct : c < t.connections.length := hc.trans_le hst.moves.length_le
  exact h.trans (h' ht hct) (htu.forgotten ht hct)

variable (engine)

/-- Leaving a scope: its connection is closed, if its users own it, and then let go of. -/
theorem closedBy_leave {s : Session World Handle} (hs : Coherent s) {c : Nat} (d : Nat)
    (hc : c < s.connections.length) :
    ClosedBy (c = d ∧ s.isShared d = false) c s ((s.close engine d).1.unhold engine) := by
  have hclose : Changes engine s (s.close engine d).1 := .single (.close s d)
  have hunhold : Changes engine (s.close engine d).1 ((s.close engine d).1.unhold engine) :=
    .single (.unhold _)
  refine ((closedBy_close hs d hc).trans_changes hs hc hclose hunhold fun ht hct => ?_).congr
    (or_iff_left id)
  exact closedBy_unhold ht hct

/-- The name stands for the connection that is closed, and its users own it. -/
theorem owns_iff {s : Session World Handle} {name : String} {d : Nat}
    (hname : s.named? name = some d) (c : Nat) :
    s.Owns name c ↔ c = d ∧ s.isShared d = false := by
  unfold Owns
  rw [hname]
  constructor
  · rintro ⟨hcd, hshared⟩
    obtain rfl : d = c := Option.some.inj hcd
    exact ⟨rfl, hshared⟩
  · rintro ⟨rfl, hshared⟩
    exact ⟨rfl, hshared⟩

/-- Steps on a name that stands for nothing close nothing. -/
theorem not_closes_of_named?_eq_none {name : String} {s : Session World Handle}
    (hname : s.named? name = none) (c : Nat) :
    ¬ closes engine c (.close name) s ∧
    (∀ polled, ¬ closes engine c (.cancelled name polled) s) ∧
    (∀ steps leave, ¬ closes engine c (.scope name steps leave) s) ∧
    ∀ nickname steps result, ¬ closes engine c (.within name nickname steps result) s := by
  simp [closes, Owns, hname]

/-- A scope closes what its program closes, and then its own connection. -/
theorem closedBy_scope {s entered left : Session World Handle} {name : String} {c d : Nat}
    {P : Prop} (hs : Coherent s) (hc : c < s.connections.length)
    (hname : s.named? name = some d)
    (henter : Changes engine s entered) (hquiet : ClosedBy False c s entered)
    (hinside : Changes engine entered left) (hinner : ClosedBy P c entered left) :
    ClosedBy (s.Owns name c ∨ P) c s ((left.close engine d).1.unhold engine) := by
  have hthrough : Changes engine s left := henter.trans hinside
  have hleave : Changes engine left ((left.close engine d).1.unhold engine) :=
    .head (.close _ d) (.single (.unhold _))
  -- whatever the program inside does, the connection keeps its owner
  have hshared : left.isShared d = s.isShared d :=
    (Changes.moves hthrough).isShared_eq (hs.opened d (isReferenced_of_named? hname))
  have hbody : ClosedBy P c s left :=
    (hquiet.trans_changes hs hc henter hinside fun _ _ => hinner).congr (by simp)
  have hwhole := hbody.trans_changes hs hc hthrough hleave fun hs' hc' =>
    closedBy_leave engine hs' d hc'
  rw [hshared, ← owns_iff hname] at hwhole
  exact hwhole.congr or_comm

mutual

/-- **What a step closes.** The connections that it is said to close, and those that
    nothing refers to any more. -/
theorem perform_closedBy (step : Step) {s : Session World Handle} (hs : Coherent s) {c : Nat}
    (hc : c < s.connections.length) :
    ClosedBy (closes engine c step s) c s (s.perform engine step).1 := by
  have hchanges : Changes engine s (s.perform engine step).1 := perform_changes engine step s
  cases step with
  | close name =>
    cases hname : s.named? name with
    | none =>
      rw [(perform_fst_of_named?_eq_none engine hname).1]
      exact closedBy_refl hs c (not_closes_of_named?_eq_none engine hname c).1
    | some d =>
      rw [perform_close_fst engine hname]
      simp only [closes]
      exact (closedBy_close hs d hc).congr (owns_iff hname c).symm
  | scope name steps leave =>
    cases hname : s.named? name with
    | none =>
      rw [(perform_fst_of_named?_eq_none engine hname).2.2.1]
      exact closedBy_refl hs c
        ((not_closes_of_named?_eq_none engine hname c).2.2.1 steps leave)
    | some d =>
      rw [perform_scope_fst engine hname]
      have hd : s.isReferenced d = true := isReferenced_of_named? hname
      have henter : Changes engine s (s.hold d) := .single (.hold s d hd)
      -- in the scope the connection still is one of those there are
      have hentered : c < (s.hold d).connections.length := hc.trans_le henter.moves.length_le
      refine (closedBy_scope engine hs hc hname henter (closedBy_hold engine hs hd hc)
        (runAll_changes engine steps (s.hold d))
        (runAll_closedBy steps (henter.coherent hs) hentered)).congr ?_
      simp [closes, hname]
  | within name nickname steps result =>
    cases hname : s.named? name with
    | none =>
      rw [(perform_fst_of_named?_eq_none engine hname).2.2.2]
      exact closedBy_refl hs c
        ((not_closes_of_named?_eq_none engine hname c).2.2.2 nickname steps result)
    | some d =>
      rw [perform_within_fst engine hname]
      have hd : s.isReferenced d = true := isReferenced_of_named? hname
      have henter : Changes engine s (s.hold d) := .single (.hold s d hd)
      have hbind := bind_hold_quietChange engine nickname d s
      have hbegin : Changes engine s ((s.hold d).bind engine nickname d) :=
        henter.tail (.quiet _ _ hbind)
      -- up to the body nothing is closed by hand
      have hquiet : ClosedBy False c s ((s.hold d).bind engine nickname d) :=
        ((closedBy_hold engine hs hd hc).trans_changes hs hc henter (.single (.quiet _ _ hbind))
          fun hs' hc' => hbind.closedBy hs' hc').congr or_self_iff
      refine (closedBy_scope engine hs hc hname hbegin hquiet
        (runUntilError_changes engine steps _)
        (runUntilError_closedBy steps (hbegin.coherent hs)
          (hc.trans_le hbegin.moves.length_le))).congr ?_
      simp [closes, hname]
  | cancelled name polled =>
    cases hname : s.named? name with
    | none =>
      rw [(perform_fst_of_named?_eq_none engine hname).2.1]
      exact closedBy_refl hs c ((not_closes_of_named?_eq_none engine hname c).2.1 polled)
    | some d =>
      rw [perform_cancelled_fst engine hname]
      cases polled with
      | false => exact closedBy_refl hs c (by simp [closes])
      | true => exact (closedBy_close hs d hc).congr (by simp [closes, owns_iff hname])
  | shutdown r => exact closedBy_shutdown hs r hc
  | _ =>
    exact ((perform_quietChanges engine rfl s).closedBy hs hc).congr
      (iff_of_false id (not_closes_of_isQuiet engine rfl c s))

/-- What all steps of a program close, they close by hand or because nothing refers to it. -/
theorem runAll_closedBy (steps : List Step) {s : Session World Handle} (hs : Coherent s)
    {c : Nat} (hc : c < s.connections.length) :
    ClosedBy (closesAny engine c steps s) c s (s.runAll engine steps).1 := by
  cases steps with
  | nil => exact closedBy_refl hs c (by simp [closesAny])
  | cons step rest =>
    have hstep : Changes engine s (s.perform engine step).1.tell.1 :=
      (perform_changes engine step s).tail (.quiet _ _ (.tell _))
    have hclosed : ClosedBy (closes engine c step s) c s (s.perform engine step).1.tell.1 :=
      perform_closedBy step hs hc
    refine (hclosed.trans_changes hs hc hstep (runAll_changes engine rest _) fun hs' hc' =>
      runAll_closedBy rest hs' hc').congr ?_
    simp only [closesAny]

/-- So it is with the steps up to the first error. -/
theorem runUntilError_closedBy (steps : List Step) {s : Session World Handle}
    (hs : Coherent s) {c : Nat} (hc : c < s.connections.length) :
    ClosedBy (closesBeforeError engine c steps s) c s (s.runUntilError engine steps).1 := by
  cases steps with
  | nil => exact closedBy_refl hs c (by simp [closesBeforeError])
  | cons step rest =>
    have hstep : Changes engine s (s.perform engine step).1.tell.1 :=
      (perform_changes engine step s).tail (.quiet _ _ (.tell _))
    have hclosed : ClosedBy (closes engine c step s) c s (s.perform engine step).1.tell.1 :=
      perform_closedBy step hs hc
    simp only [runUntilError]
    split
    · rename_i e he
      -- after an error no step is done, so none closes anything
      exact hclosed.congr (by simp [closesBeforeError, he])
    · rename_i he
      refine (hclosed.trans_changes hs hc hstep (runUntilError_changes engine rest _)
        fun hs' hc' => runUntilError_closedBy rest hs' hc').congr ?_
      simp [closesBeforeError, he]

end

/-! ### States of a program -/

/-- The states in which a step of a program is done, those inside its scopes included. -/
inductive Reachable (world : World) (registry : RegistryName → Options) :
    Session World Handle → Prop where
  | start : Reachable world registry (start world registry)
  | perform (s : Session World Handle) (step : Step) (h : Reachable world registry s) :
      Reachable world registry (s.perform engine step).1
  | tell (s : Session World Handle) (h : Reachable world registry s) :
      Reachable world registry s.tell.1
  /-- a scope is entered -/
  | scope (s : Session World Handle) (name : String) (c : Nat) (h : Reachable world registry s)
      (hname : s.named? name = some c) : Reachable world registry (s.hold c)
  /-- a scope is entered in which the connection has another name too -/
  | within (s : Session World Handle) (name nickname : String) (c : Nat)
      (h : Reachable world registry s) (hname : s.named? name = some c) :
      Reachable world registry ((s.hold c).bind engine nickname c)

variable {engine}

/-- Whatever steps lead to, everything open is referred to. -/
theorem Reachable.coherent {world : World} {registry : RegistryName → Options}
    {s : Session World Handle} (h : Reachable engine world registry s) : Coherent s := by
  induction h with
  | start => exact start_coherent world registry
  | perform s step _ ih => exact (perform_changes engine step s).coherent ih
  | tell s _ ih =>
    have htell : QuietChange engine s s.tell.1 := .tell s
    exact htell.coherent ih
  | scope s name c _ hname ih => exact ih.hold (isReferenced_of_named? hname)
  | within s name nickname c _ hname ih =>
    have hhold : Coherent (s.hold c) := ih.hold (isReferenced_of_named? hname)
    exact (bind_hold_quietChange engine nickname c s).coherent hhold

/-- Whoever asks a closed connection to run statements is refused.  Nothing happens but that the
    worker pool has had a task for it. -/
theorem perform_of_isClosed {s : Session World Handle} {name : String} {c : Nat}
    (hname : s.named? name = some c) (hclosed : s.isClosed c = true) :
    (∀ statement params, s.perform engine (.execute (some name) statement params) =
      (s.spawn, .refused (.error .closed))) ∧
    ∀ sql, s.perform engine (.batch name sql) = (s.spawn, .refused (.error .closed)) := by
  constructor
  · intro statement params
    simp only [perform, onNamed, hname, execute_of_isClosed engine hclosed]
    rfl
  · intro sql
    simp only [perform, onNamed, hname, executeBatch_of_isClosed engine hclosed]
    rfl

/-- **Closed by its owner or by its registry.** Whatever state a program is in, a step closes
    a connection exactly if the step says so, as long as something refers to it.  With its
    last reference a connection is gone, and then it is closed too.  A closed connection stays
    closed, under every name it says so, and statements asked of it are refused without
    reaching the engine. -/
theorem closed_iff_by_owner_or_registry {world : World} {registry : RegistryName → Options}
    {s : Session World Handle} (hs : Reachable engine world registry s) (step : Step) {c : Nat}
    (hc : c < s.connections.length) :
    let t := (s.perform engine step).1
    (t.isReferenced c = true →
      (t.isClosed c = true ↔ s.isClosed c = true ∨ closes engine c step s)) ∧
    (t.isReferenced c = false →
      t.isClosed c = true ∧ (s.isClosed c = false → s.isReferenced c = true)) ∧
    (s.isClosed c = true → t.isClosed c = true) ∧
    (∀ name, t.named? name = some c →
      t.perform engine (.isClosed name) = (t, .flag (t.isClosed c))) ∧
    (t.isClosed c = true → ∀ name, t.named? name = some c →
      (∀ statement params, t.perform engine (.execute (some name) statement params) =
        (t.spawn, .refused (.error .closed))) ∧
      ∀ sql, t.perform engine (.batch name sql) = (t.spawn, .refused (.error .closed))) := by
  intro t
  have hstep : ClosedBy (closes engine c step s) c s t :=
    perform_closedBy engine step hs.coherent hc
  refine ⟨fun href => ?_, fun hforgotten => ?_, fun hclosed => ?_, fun name hname => ?_,
    fun hclosed name hname => perform_of_isClosed hname hclosed⟩
  · -- it is not forgotten, so that way of being closed is left out
    have hiff : t.isClosed c = true ↔ s.isClosed c = true ∨ closes engine c step s ∨
        t.isReferenced c = false := hstep
    rw [hiff, href]
    simp
  · exact ⟨hstep.mpr (.inr (.inr hforgotten)), hs.coherent.isReferenced⟩
  · exact hstep.mpr (.inl hclosed)
  · simp only [perform, onNamed, hname]

namespace ClosingTest

/-- An engine that cannot close its first handle. -/
def script : Script where
  name := "scripted"
  opens := []
  closes := [some (.reported .execution "stuck")]
  statements := []

/-- A connection under two names. -/
def twice : Session Unit ScriptedHandle :=
  let named := (perform script.engine (.connect "a" .inMemory) (start () fun _ => .inMemory)).1
  (named.perform script.engine (.clone "a" "b")).1

/-- The session of the example is one that steps lead to. -/
theorem twice_reachable : Reachable script.engine () (fun _ => .inMemory) twice :=
  .perform _ _ (.perform _ _ .start)

/-- What closing it by one name leaves. -/
def after : Session Unit ScriptedHandle := (twice.perform script.engine (.close "a")).1

end ClosingTest

open ClosingTest in
/-- Closing fails, and the connection is closed under its other name all the same. -/
theorem closed_iff_by_owner_or_registry_of_failing_close :
    (twice.perform script.engine (.close "a")).2.error? =
      some (.reported .execution "stuck") ∧
    twice.isClosed 0 = false ∧ after.isReferenced 0 = true ∧ after.isClosed 0 = true ∧
    after.perform script.engine (.execute (some "b") "next" []) =
      (after.spawn, .refused (.error .closed)) := by
  have hlength : 0 < twice.connections.length := by decide +kernel
  have hopen : twice.isClosed 0 = false := by decide +kernel
  have howns : twice.Owns "a" 0 := by
    constructor
    · decide +kernel
    · decide +kernel
  have href : after.isReferenced 0 = true := by decide +kernel
  have hother : after.named? "b" = some 0 := by decide +kernel
  obtain ⟨hiff, _, _, _, hrefused⟩ :=
    closed_iff_by_owner_or_registry twice_reachable (.close "a") hlength
  have hcloses : closes script.engine 0 (.close "a") twice := by
    simp only [closes]
    exact howns
  have hclosed : after.isClosed 0 = true := (hiff href).mpr (.inr hcloses)
  exact ⟨by decide +kernel, hopen, href, hclosed, (hrefused hclosed "b" hother).1 "next" []⟩

end SqlClient.Session
