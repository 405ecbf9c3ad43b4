import SqlClient.Proofs.Session.Attempts

namespace SqlClient.Session

/-!
# The first attempt to release

Scopes are nested, their programs close what the scope will close again, and calls in them
fail.  Through all of it the first attempt to release a connection is the one that the
engine hears of.

* `isReferenced_of_failure` — a step that fails forgets nothing.
* `perform_settles`, `runAll_settles`, `runUntilError_settles` — the attempts of every step
  and of every program.
* `first_attempt_releases` — the whole account, with what calls with a scope of their own
  answer.
-/

variable {World Handle : Type} {engine : Engine World Handle} {c k : Nat}
  {s t u : Session World Handle}

/-! ### Quiet steps -/

/-- Acquiring a shared connection gives up no reference. -/
theorem isReferenced_acquire (engine : Engine World Handle) (r : RegistryName)
    (hc : s.isReferenced c = true) : (s.acquire engine r).1.isReferenced c = true := by
  have hrefs := connect_references engine .shared (s.registry r).options s
  rcases acquire_cases engine r s with ⟨d, _, heq⟩ | ⟨u, d, hslot, hu, heq⟩ | ⟨u, e, _, hu, heq⟩
  · rw [heq]
    exact hc
  · rw [heq]
    rw [hu] at hrefs
    have hcu : u.isReferenced c = true := (hrefs.isReferenced c).trans hc
    rcases isReferenced_iff.mp hcu with hname | hheld | ⟨n, hn⟩
    · exact isReferenced_iff.mpr (.inl hname)
    · exact isReferenced_iff.mpr (.inr (.inl hheld))
    · -- the slot that is filled was empty
      have hne : n ≠ r := by
        rintro rfl
        have hsame : (u.registry n).slot = (s.registry n).slot := by rw [hrefs.registry]
        rw [hsame, hslot] at hn
        exact absurd hn (by simp)
      refine isReferenced_of_slot (r := n) ?_
      show ((u.setSlot r (some d)).registry n).slot = some c
      rw [slot_setSlot_of_ne hne]
      exact hn
  · rw [heq]
    rw [hu] at hrefs
    exact (hrefs.isReferenced c).trans hc

/-- A step without scopes that fails gives up no reference, so it releases nothing. -/
theorem isReferenced_of_failure {step : Step} (hstep : step.isQuiet = true) {e : Error}
    (he : (s.perform engine step).2.failure? = some e) (hc : s.isReferenced c = true) :
    (s.perform engine step).1.isReferenced c = true := by
  cases step with
  | connect name options =>
    have hrefs := connect_references engine .owned options s
    simp only [perform] at he ⊢
    rcases h : s.connect engine .owned options with ⟨u, e' | d⟩
    · rw [h] at hrefs
      exact (hrefs.isReferenced c).trans hc
    · -- a connection was opened, so nothing has failed
      rw [h] at he
      exact absurd he nofun
  | execute target statement params =>
    cases target with
    | some name =>
      simp only [perform, onNamed] at he ⊢
      cases hname : s.named? name with
      | none => exact hc
      | some d =>
        simp only [rowsResult_fst]
        exact ((execute_references engine d statement params s).isReferenced c).trans hc
    | none =>
      simp only [perform, rowsResult_fst, executeShared]
      have hacquired := isReferenced_acquire engine .process hc
      rcases h : s.acquire engine .process with ⟨u, e' | d⟩
      · -- the error comes from asking the registry, and no statement is sent
        rw [h] at hacquired
        exact hacquired
      · rw [h] at hacquired
        exact ((execute_references engine d statement params u).isReferenced c).trans hacquired
  | batch name sql =>
    simp only [perform, onNamed] at he ⊢
    cases hname : s.named? name with
    | none => exact hc
    | some d => exact ((executeBatch_references engine d sql s).isReferenced c).trans hc
  | acquire r name =>
    have hacquired := isReferenced_acquire engine r hc
    simp only [perform] at he ⊢
    rcases h : s.acquire engine r with ⟨u, e' | d⟩
    · rw [h] at hacquired
      exact hacquired
    · rw [h] at he
      exact absurd he nofun
  | clone source name =>
    simp only [perform, onNamed] at he
    split at he <;> exact absurd he nofun
  | drop name =>
    simp only [perform, onNamed] at he
    split at he <;> exact absurd he nofun
  | acquireMany count => exact absurd he nofun
  | sameHandle first second =>
    simp only [perform, onNamed] at he ⊢
    split
    · exact hc
    · split <;> exact hc
  | close name => exact absurd hstep (by simp [Step.isQuiet])
  | scope name steps leave => exact absurd hstep (by simp [Step.isQuiet])
  | within name nickname steps result => exact absurd hstep (by simp [Step.isQuiet])
  | cancelled name polled => exact absurd hstep (by simp [Step.isQuiet])
  | shutdown r => exact absurd hstep (by simp [Step.isQuiet])
  | isInitialized => exact hc
  | describeRegistry => exact hc
  | unknown => exact hc
  | _ =>
    simp only [perform, onNamed]
    split <;> exact hc

/-! ### Steps and programs -/

/-- What a scope tells of the release at its end is what the attempt at its end has told. -/
private theorem heard_scope (id d : Nat) (replies : List Reply) (leave : Leave)
    (s : Session World Handle) :
    (Answer.scope id replies (s.leaveScope engine d leave).2).heard leave.manner =
      leave.manner.hears (s.close engine d).2 := by
  cases leave with
  | exit =>
    rw [leaveScope, exitScope_eq]
    rcases s.close engine d with ⟨t, e | u⟩ <;> rfl
  | drop => rfl
  | panic => rfl

/-- What a call with a scope of its own tells of it. -/
private theorem heard_within (replies : List Reply) (error result : Option Error)
    (released : Except Error Unit) :
    (Answer.within replies (firstError error result released)).heard (.within (error.or result)) =
      (Manner.within (error.or result)).hears released := by
  cases error with
  | some e => rfl
  | none =>
    cases result with
    | some e => rfl
    | none => cases released <;> rfl

/-- Registries leave the connections of users as they are. -/
theorem Owned.isClosed_shutdown (hs : Owned c k s) (r : RegistryName) :
    (s.shutdown engine r).1.isClosed c = s.isClosed c := by
  unfold shutdown
  cases hslot : (s.registry r).slot with
  | none => rfl
  | some d =>
    have hne : c ≠ d := by
      rintro rfl
      exact absurd (hs.coherent.shared r c hslot) (by simp [hs.owned])
    exact Bool.eq_iff_iff.mpr ((isClosed_release engine d c _).trans (or_iff_right hne))

/-- Quiet steps attempt no release but that of a connection they forget. -/
theorem Owned.settles_quiet (hs : Owned c k s) {step : Step} (hstep : step.isQuiet = true) :
    Settles engine c k s (s.perform engine step).1 (tries engine c step s) := by
  have hquiet := perform_quietChanges engine hstep s
  rw [tries_of_isQuiet engine hstep]
  refine hs.settles_forgetting hquiet.changes (hquiet.closedBy hs.coherent hs.number.opened)
    fun hbefore hafter => ?_
  unfold Answer.heard
  cases hfailure : (s.perform engine step).2.failure? with
  | none => rfl
  | some e => exact absurd (isReferenced_of_failure hstep hfailure hbefore) (by simp [hafter])

mutual

/-- **The attempts in a step** settle the release of a connection: the first that finds it open
    releases it. -/
theorem perform_settles (step : Step) {s : Session World Handle} (hs : Owned c k s) :
    Settles engine c k s (s.perform engine step).1 (tries engine c step s) := by
  cases step with
  | close name =>
    cases hname : s.named? name with
    | none =>
      rw [(perform_fst_of_named?_eq_none engine hname).1]
      simp only [tries, hname, reduceCtorEq, if_false]
      exact .of_isClosed_eq rfl
    | some d =>
      rw [perform_close_fst engine hname]
      simp only [tries, hname, Option.some.injEq]
      split
      · -- another connection is none of this one's business
        rename_i hd
        subst hd
        refine hs.settles_close ?_
        simp only [perform, onNamed, hname]
        cases (s.close engine d).2 <;> rfl
      · rename_i hd
        exact .of_isClosed_eq (isClosed_close_of_ne hd s)
  | scope name steps leave =>
    cases hname : s.named? name with
    | none =>
      rw [(perform_fst_of_named?_eq_none engine hname).2.2.1]
      simp only [tries, hname]
      exact .of_isClosed_eq rfl
    | some d =>
      rw [perform_scope_fst engine hname]
      simp only [tries, hname, leaveScope_fst]
      -- entering, the program inside, and leaving: their attempts come one after the other
      have henter : Changes engine s (s.hold d) :=
        .single (.hold s d (isReferenced_of_named? hname))
      have hentered : Settles engine c k s (s.hold d) [] := .of_isClosed_eq rfl
      have hbody : Changes engine (s.hold d) ((s.hold d).runAll engine steps).1 :=
        runAll_changes engine steps _
      refine (hentered.trans (runAll_settles steps (hs.changes henter))).trans
        ((hs.changes (henter.trans hbody)).settles_leaving fun _ => ?_)
      simp only [perform, hname]
      exact heard_scope _ d _ leave _
  | within name nickname steps result =>
    cases hname : s.named? name with
    | none =>
      rw [(perform_fst_of_named?_eq_none engine hname).2.2.2]
      simp only [tries, hname]
      exact .of_isClosed_eq rfl
    | some d =>
      rw [perform_within_fst engine hname]
      simp only [tries, hname, exitScope_eq]
      have henter : Changes engine s (s.hold d) :=
        .single (.hold s d (isReferenced_of_named? hname))
      have hentered : Settles engine c k s (s.hold d) [] := .of_isClosed_eq rfl
      have hheld : Owned c k (s.hold d) := hs.changes henter
      have hbind := bind_hold_quietChange engine nickname d s
      -- the nickname may be the last name of a connection, which is then released unheard
      have hbegin : Changes engine (s.hold d) ((s.hold d).bind engine nickname d) :=
        .single (.quiet _ _ hbind)
      have hbegun := hheld.settles_forgetting hbegin
        (hbind.closedBy hheld.coherent hheld.number.opened) fun _ _ => rfl
      have hinside : Owned c k ((s.hold d).bind engine nickname d) := hheld.changes hbegin
      have hleft := hinside.changes (runUntilError_changes engine steps _)
      refine ((hentered.trans hbegun).trans (runUntilError_settles steps hinside)).trans
        (hleft.settles_leaving fun _ => ?_)
      simp only [perform, hname, exitScope_eq]
      exact heard_within _ _ result _
  | cancelled name polled =>
    cases hname : s.named? name with
    | none =>
      rw [(perform_fst_of_named?_eq_none engine hname).2.1]
      simp only [tries, hname, reduceCtorEq, and_false, if_false]
      exact .of_isClosed_eq rfl
    | some d =>
      rw [perform_cancelled_fst engine hname]
      simp only [tries, hname, Option.some.injEq]
      cases polled with
      | false => exact .of_isClosed_eq rfl
      | true =>
        simp only [true_and, if_true]
        split
        · rename_i hd
          subst hd
          refine hs.settles_ending ?_
          simp only [perform, onNamed, hname]
          rfl
        · rename_i hd
          exact .of_isClosed_eq (isClosed_close_of_ne hd s)
  | shutdown r =>
    -- a registry closes only what it opened, and this one has an owner
    simp only [tries]
    exact .of_isClosed_eq (hs.isClosed_shutdown r)
  | _ => exact hs.settles_quiet rfl

/-- So do the attempts in all steps of a program, one step after the other. -/
theorem runAll_settles (steps : List Step) {s : Session World Handle} (hs : Owned c k s) :
    Settles engine c k s (s.runAll engine steps).1 (triesInAll engine c steps s) := by
  cases steps with
  | nil =>
    simp only [triesInAll]
    exact .of_isClosed_eq rfl
  | cons step rest =>
    have hstep : Changes engine s (s.perform engine step).1.tell.1 :=
      (perform_changes engine step s).tail (.quiet _ _ (.tell _))
    simp only [triesInAll]
    exact (perform_settles step hs).tell.trans (runAll_settles rest (hs.changes hstep))

/-- So do those in its steps up to the first error. -/
theorem runUntilError_settles (steps : List Step) {s : Session World Handle}
    (hs : Owned c k s) :
    Settles engine c k s (s.runUntilError engine steps).1 (triesBeforeError engine c steps s) := by
  cases steps with
  | nil =>
    simp only [triesBeforeError]
    exact .of_isClosed_eq rfl
  | cons step rest =>
    have hstep : Changes engine s (s.perform engine step).1.tell.1 :=
      (perform_changes engine step s).tail (.quiet _ _ (.tell _))
    have hfirst := (perform_settles step hs).tell
    simp only [runUntilError, triesBeforeError]
    cases (s.perform engine step).2.error? with
    | some e => exact hfirst
    | none => exact hfirst.trans (runUntilError_settles rest (hs.changes hstep))

end

/-! ### Calls with a scope of their own -/

/-- Such a call answers with the error of its body, and else as its own release did. -/
theorem within_error? {name : String} {d : Nat} (hname : s.named? name = some d)
    (nickname : String) (body : List Step) (result : Option Error) :
    let inside := ((s.hold d).bind engine nickname d).runUntilError engine body
    (s.perform engine (.within name nickname body result)).2.error? =
      firstError inside.2.2 result (inside.1.close engine d).2 := by
  simp only [perform, hname, exitScope_eq, Answer.error?]

/-- The connection of such a call is closed afterwards, if its users own it. -/
theorem isClosed_within (hs : Coherent s) {name : String} {d : Nat}
    (hname : s.named? name = some d) (howned : s.isShared d = false) (nickname : String)
    (body : List Step) (result : Option Error) :
    (s.perform engine (.within name nickname body result)).1.isClosed d = true := by
  have hd : d < s.connections.length := hs.opened d (isReferenced_of_named? hname)
  have hclosed := perform_closedBy engine (.within name nickname body result) hs hd
  refine hclosed.mpr (.inr (.inl ?_))
  simp only [closes]
  exact .inl ⟨hname, howned⟩

/-- **The first attempt releases.** Whatever is done from a state in which users own an open
    connection, the engine closes its handle at most once.  It does so in the first attempt to
    release the connection, whose caller hears how it went unless nobody asks, or a body has
    failed before.  All later attempts find the connection closed, and hear that all is well.
    A call with a scope of its own answers with the error of its body; without one it answers
    as its own release did.  Either way it leaves the connection closed. -/
theorem first_attempt_releases {world : World} {registry : RegistryName → Options}
    (hs : Reachable engine world registry s) {handle : Handle} (howned : s.isShared c = false)
    (hopen : s.handle? c = some (k, handle)) (steps : List Step) :
    let t := (s.runAll engine steps).1
    let tried := triesInAll engine c steps s
    (tried = [] ∧ t.isClosed c = false ∧ t.log.count (.closed k) = s.log.count (.closed k) ∨
      ∃ first later, tried = first :: later ∧ t.isClosed c = true ∧
        t.log.count (.closed k) = s.log.count (.closed k) + 1 ∧
        first.Reaches engine c k ∧ ∀ a ∈ later, a.Idles c k) ∧
    ∀ name d, s.named? name = some d → ∀ nickname body result,
      let inside := ((s.hold d).bind engine nickname d).runUntilError engine body
      let called := s.perform engine (.within name nickname body result)
      (∀ e, inside.2.2.or result = some e → called.2.error? = some e) ∧
      (inside.2.2.or result = none → ∀ e,
        called.2.error? = some e ↔ (inside.1.close engine d).2 = .error e) ∧
      (s.isShared d = false → called.1.isClosed d = true) := by
  intro t tried
  have hnumber : s.handleNumber? c = some k := by
    rw [handleNumber?, hopen]
    rfl
  have hmine : Owned c k s := ⟨hs.coherent, hs.numbered.belongsTo hnumber, howned⟩
  have hsopen : s.isClosed c = false := isClosed_eq_false.mpr ⟨k, hnumber⟩
  constructor
  · obtain ⟨_, calls, hlog, hcount⟩ := (runAll_changes engine steps s).closings hmine.number
    -- the handle is closed once or not at all, so the log tells it from the state at the end
    have htotal : t.log.count (.closed k) = s.log.count (.closed k) + calls.count (.closed k) := by
      rw [← List.count_append, ← hlog]
    have hsettles : Settles engine c k s t tried := runAll_settles steps hmine
    rw [uses_of_open hsopen] at hcount
    generalize tried = tried at hsettles ⊢
    cases hsettles with
    | kept _ ht =>
      rw [uses_of_open ht] at hcount
      exact .inl ⟨rfl, ht, by omega⟩
    | released first later _ ht hfirst hlater =>
      rw [uses_of_closed ht] at hcount
      exact .inr ⟨first, later, rfl, ht, by omega, hfirst, hlater⟩
    | late _ hclosed => exact absurd (hsopen.symm.trans hclosed) (by simp)
  · -- the error of the body comes first, then that of the release
    intro name d hname nickname body result inside called
    have herror : called.2.error? = firstError inside.2.2 result (inside.1.close engine d).2 :=
      within_error? hname nickname body result
    refine ⟨fun e he => ?_, fun hnone e => ?_,
      fun hd => isClosed_within hs.coherent hname hd nickname body result⟩
    · rw [herror]
      generalize inside.2.2 = error at he
      cases error with
      | some e' => exact he
      | none =>
        obtain rfl : result = some e := he
        rfl
    · obtain ⟨hinside, rfl⟩ := Option.or_eq_none_iff.mp hnone
      rw [herror, hinside]
      cases (inside.1.close engine d).2 with
      | error e' => simp [firstError]
      | ok _ => simp [firstError]

namespace SettlingTest

/-- An engine that cannot close its first handle. -/
def script : Script where
  name := "scripted"
  opens := []
  closes := [some (.reported .execution "stuck")]
  statements := []

/-- A connection under a name. -/
def opened : Session Unit ScriptedHandle :=
  ((start () fun _ => .inMemory).perform script.engine (.connect "a" .inMemory)).1

/-- Three scopes inside each other: that of a call with its own, in one that is left by asking,
    in another that is just dropped. -/
def program : List Step :=
  [.scope "a" [.scope "a" [.within "a" "b" [] none] .exit] .drop]

end SettlingTest

open SettlingTest in
/-- Five attempts.  The innermost scope hears that closing fails, and its guard comes too late;
    so do the scope around it, which hears that it went well, its guard, and the outermost. -/
theorem first_attempt_releases_of_nested_scopes :
    (opened.runAll script.engine program).1.isClosed 0 = true ∧
    ∃ first later, triesInAll script.engine 0 program opened = first :: later ∧
      first.Reaches script.engine 0 1 ∧ (∀ a ∈ later, a.Idles 0 1) ∧
      first.heard = some (.error (.reported .execution "stuck")) ∧
      later.map (·.heard) = [none, some (.ok ()), none, none] := by
  have hreachable : Reachable script.engine () (fun _ => .inMemory) opened :=
    .perform _ _ .start
  have howned : opened.isShared 0 = false := by decide +kernel
  have htried : (triesInAll script.engine 0 program opened).map (·.heard) =
      [some (.error (.reported .execution "stuck")), none, some (.ok ()), none, none] := by rfl
  obtain ⟨hnone | ⟨first, later, heq, hclosed, _, hfirst, hlater⟩, _⟩ :=
    first_attempt_releases hreachable howned (by rfl) program
  · rw [hnone.1] at htried
    exact absurd htried (by simp)
  · rw [heq] at htried
    obtain ⟨hhead, hrest⟩ := List.cons.inj htried
    exact ⟨hclosed, first, later, heq, hfirst, hlater, hhead, hrest⟩

end SqlClient.Session
