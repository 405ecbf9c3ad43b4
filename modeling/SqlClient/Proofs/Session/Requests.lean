import SqlClient.Proofs.Session.Closing
import SqlClient.Proofs.Session.Registries

namespace SqlClient

/-!
# What a registry is asked for

Programs ask a registry for its connection and shut it down, in any order, and do with the
connection what they like.  The registry hands out the same connection until it is shut
down, and then another one.

* `Request` — a request to a registry, with what became of it.
* `History` — the requests that a registry answers in this way, with what it keeps then.
* `History.keeps_iff`, `History.same_iff` — what was handed out is kept until a shutdown.
* `Session.requests` — the requests in a step, through all programs inside it.
* `Session.Follows` — a session in which a registry has had these requests.
* `Session.perform_follows`, … — every step adds its requests to those before.
-/

/-- A request to a registry, with what became of it. -/
inductive Request where
  /-- the connection was handed out -/
  | got (c : Nat)
  /-- there was none, and none could be opened -/
  | missed
  | shutdown
deriving DecidableEq, Repr

/-- What became of asking for the connection. -/
def Request.ofResult : Except Error Nat → Request
  | .ok c => got c
  | .error _ => missed

/-! ### Histories -/

/-- What a registry was asked for so far, which connection it keeps, and how many were opened
    by anybody. -/
inductive History : List Request → Option Nat → Nat → Prop where
  | start : History [] none 0
  /-- connections are opened elsewhere -/
  | elsewhere {asked : List Request} {slot : Option Nat} {opened more : Nat}
      (h : History asked slot opened) (hle : opened ≤ more) : History asked slot more
  /-- the connection that is there is handed out -/
  | shared {asked : List Request} {c opened : Nat} (h : History asked (some c) opened) :
      History (asked ++ [.got c]) (some c) opened
  /-- a connection is opened and handed out -/
  | opened {asked : List Request} {opened : Nat} (h : History asked none opened) :
      History (asked ++ [.got opened]) (some opened) (opened + 1)
  | missed {asked : List Request} {opened : Nat} (h : History asked none opened) :
      History (asked ++ [.missed]) none opened
  | shutdown {asked : List Request} {slot : Option Nat} {opened : Nat}
      (h : History asked slot opened) : History (asked ++ [.shutdown]) none opened

namespace History

variable {asked before between after : List Request} {slot : Option Nat} {opened c d : Nat}

/-- What a registry keeps it has handed out before, so it is on record. -/
theorem got_of_keeps (h : History asked (some c) opened) : .got c ∈ asked := by
  generalize hslot : some c = slot at h
  induction h with
  | start => exact absurd hslot (by simp)
  | elsewhere _ _ ih => exact ih hslot
  | shared _ _ =>
    obtain rfl := Option.some.inj hslot
    exact List.mem_append_right _ List.mem_cons_self
  | opened _ _ =>
    obtain rfl := Option.some.inj hslot
    exact List.mem_append_right _ List.mem_cons_self
  | missed _ _ => exact absurd hslot (by simp)
  | shutdown _ _ => exact absurd hslot (by simp)

/-- What a registry hands out was opened before, so it is one of the connections there are. -/
theorem lt_of_got (h : History asked slot opened) (hc : .got c ∈ asked) : c < opened := by
  induction h with
  | start => exact absurd hc List.not_mem_nil
  | elsewhere _ hle ih => exact (ih hc).trans_le hle
  | shared h ih =>
    rcases List.mem_append.mp hc with hold | hnew
    · exact ih hold
    · obtain rfl := Request.got.inj (List.mem_singleton.mp hnew)
      exact ih h.got_of_keeps
  | opened _ ih =>
    rcases List.mem_append.mp hc with hold | hnew
    · exact Nat.lt_succ_of_lt (ih hold)
    · obtain rfl := Request.got.inj (List.mem_singleton.mp hnew)
      exact Nat.lt_succ_self _
  | missed _ ih => exact ih (by simpa using hc)
  | shutdown _ ih => exact ih (by simpa using hc)

/-- A request on a record with one more at its end is that one, or one of those before it. -/
theorem snoc_eq_append_cons {first last : Request}
    (h : asked ++ [last] = before ++ first :: between) :
    between = [] ∧ last = first ∨ ∃ rest, between = rest ++ [last] ∧
      asked = before ++ first :: rest := by
  rcases List.eq_nil_or_concat between with rfl | ⟨rest, x, rfl⟩
  · exact .inl ⟨rfl, (List.concat_inj.mp (by simpa using h)).2⟩
  · have hcut : asked ++ [last] = (before ++ first :: rest) ++ [x] := by simpa using h
    obtain ⟨hasked, hlast⟩ := List.append_inj' hcut rfl
    exact .inr ⟨rest, by rw [List.concat_eq_append, hlast], hasked⟩

/-- **A connection is kept until a shutdown:** a registry keeps what it has handed out, if it was
    not shut down after that. -/
theorem keeps_iff (h : History asked slot opened) (hasked : asked = before ++ .got c :: between) :
    slot = some c ↔ .shutdown ∉ between := by
  induction h generalizing between with
  | start => exact absurd hasked (by simp)
  | elsewhere _ _ ih => exact ih hasked
  | shared h ih =>
    -- the request looked at is the last one, or one before it
    rcases snoc_eq_append_cons hasked with ⟨rfl, hlast⟩ | ⟨rest, rfl, hold⟩
    · simp [Request.got.inj hlast]
    · simpa using ih hold
  | opened h ih =>
    rcases snoc_eq_append_cons hasked with ⟨rfl, hlast⟩ | ⟨rest, rfl, hold⟩
    · simp [Request.got.inj hlast]
    · -- another one was handed out before, and the registry has lost it since
      have hlost : Request.shutdown ∈ rest := by simpa using ih hold
      have hlt : c < _ := h.lt_of_got (by simp [hold])
      simp [hlost, hlt.ne']
  | missed h ih =>
    rcases snoc_eq_append_cons hasked with ⟨rfl, hlast⟩ | ⟨rest, rfl, hold⟩
    · exact absurd hlast (by simp)
    · simpa using ih hold
  | shutdown h ih =>
    rcases snoc_eq_append_cons hasked with ⟨rfl, hlast⟩ | ⟨rest, rfl, hold⟩
    · exact absurd hlast (by simp)
    · simp

/-- The first requests were answered in this way too. -/
private theorem of_prefix (h : History asked slot opened) (hbefore : before <+: asked) :
    ∃ slot' opened', History before slot' opened' := by
  induction h with
  | start =>
    rw [List.prefix_nil.mp hbefore]
    exact ⟨none, 0, .start⟩
  | elsewhere _ _ ih => exact ih hbefore
  | shared h ih =>
    rcases List.prefix_concat_iff.mp hbefore with rfl | hbefore
    · exact ⟨_, _, h.shared⟩
    · exact ih hbefore
  | opened h ih =>
    rcases List.prefix_concat_iff.mp hbefore with rfl | hbefore
    · exact ⟨_, _, h.opened⟩
    · exact ih hbefore
  | missed h ih =>
    rcases List.prefix_concat_iff.mp hbefore with rfl | hbefore
    · exact ⟨_, _, h.missed⟩
    · exact ih hbefore
  | shutdown h ih =>
    rcases List.prefix_concat_iff.mp hbefore with rfl | hbefore
    · exact ⟨_, _, h.shutdown⟩
    · exact ih hbefore

/-- **One connection at a time.** The registry hands out the same connection twice if it is
    not shut down in between, and else another one. -/
theorem same_iff (h : History (before ++ .got c :: between ++ .got d :: after) slot opened) :
    c = d ↔ .shutdown ∉ between := by
  -- what is kept right after the second time
  have hbefore : before ++ .got c :: (between ++ [.got d]) <+:
      before ++ .got c :: between ++ .got d :: after := ⟨after, by simp⟩
  obtain ⟨kept, _, hthen⟩ := h.of_prefix hbefore
  have hfirst : kept = some c ↔ Request.shutdown ∉ between ++ [.got d] := hthen.keeps_iff rfl
  have hsecond : kept = some d ↔ Request.shutdown ∉ ([] : List Request) :=
    hthen.keeps_iff (List.append_assoc before (.got c :: between) [.got d]).symm
  rw [hsecond.mpr List.not_mem_nil] at hfirst
  simpa [eq_comm] using hfirst

end History

/-- A step in which no registry is asked for anything, unless by a program inside it. -/
def Step.isPrivate : Step → Bool
  | .execute none _ _ => false
  | .scope _ _ _ => false
  | .within _ _ _ _ => false
  | .acquire _ _ => false
  | .acquireMany _ => false
  | .shutdown _ => false
  | _ => true

namespace Session

variable {World Handle : Type} (engine : Engine World Handle)

/-! ### The requests in a step -/

mutual

/-- What a registry is asked for in a step.  The registry of the process is also asked where
    a statement names no connection. -/
def requests (r : RegistryName) (step : Step) (s : Session World Handle) : List Request :=
  match step with
  | .acquire name _ => if name = r then [.ofResult (s.acquire engine r).2] else []
  | .acquireMany count =>
    if r = .session then (s.acquireMany engine r count).2.map .ofResult else []
  | .execute none _ _ => if r = .process then [.ofResult (s.acquire engine r).2] else []
  | .shutdown name => if name = r then [.shutdown] else []
  | .scope name steps _ =>
    match s.named? name with
    | none => []
    | some c => requestsInAll r steps (s.hold c)
  | .within name nickname steps _ =>
    match s.named? name with
    | none => []
    | some c => requestsBeforeError r steps ((s.hold c).bind engine nickname c)
  | _ => []

/-- What it is asked for in all steps of a program. -/
def requestsInAll (r : RegistryName) (steps : List Step) (s : Session World Handle) :
    List Request :=
  match steps with
  | [] => []
  | step :: rest => requests r step s ++ requestsInAll r rest (s.perform engine step).1.tell.1

/-- What it is asked for in the steps up to the first error. -/
def requestsBeforeError (r : RegistryName) (steps : List Step) (s : Session World Handle) :
    List Request :=
  match steps with
  | [] => []
  | step :: rest =>
    match (s.perform engine step).2.error? with
    | some _ => requests r step s
    | none => requests r step s ++ requestsBeforeError r rest (s.perform engine step).1.tell.1

end

/-- A step that concerns no registry has no requests to show. -/
theorem requests_of_isPrivate {step : Step} (hstep : step.isPrivate = true) (r : RegistryName)
    (s : Session World Handle) : requests engine r step s = [] := by
  cases step with
  | execute target statement params =>
    cases target with
    | none => exact absurd hstep (by simp [Step.isPrivate])
    | some name => simp only [requests]
  | scope => exact absurd hstep (by simp [Step.isPrivate])
  | within => exact absurd hstep (by simp [Step.isPrivate])
  | acquire => exact absurd hstep (by simp [Step.isPrivate])
  | acquireMany => exact absurd hstep (by simp [Step.isPrivate])
  | shutdown => exact absurd hstep (by simp [Step.isPrivate])
  | _ => simp only [requests]

/-- Once the shared connection is there, a statement leaves the registries alone. -/
theorem executeShared_registry (statement : String) (params : List Value)
    (s : Session World Handle) :
    (s.executeShared engine statement params).1.registry =
      (s.acquire engine .process).1.registry := by
  unfold executeShared
  rcases s.acquire engine .process with ⟨t, e | c⟩
  · rfl
  · exact (execute_references engine c statement params t).registry

/-- A statement on the connection of the process moves as the request for it does, and then as the
    statement. -/
theorem executeShared_moves (statement : String) (params : List Value)
    (s : Session World Handle) :
    Moves engine (s.acquire engine .process).1 (s.executeShared engine statement params).1 := by
  unfold executeShared
  rcases s.acquire engine .process with ⟨t, e | c⟩
  · exact .refl
  · exact execute_moves engine c statement params t

/-- A step on a named connection keeps whatever it keeps once the connection is found. -/
theorem onNamed_keeps {α : Type} (part : Session World Handle → α) {name : String}
    {s : Session World Handle} {f : Nat → Session World Handle × Answer}
    (h : ∀ c, part (f c).1 = part s) : part (s.onNamed name f).1 = part s := by
  unfold onNamed
  cases s.named? name with
  | none => rfl
  | some c => exact h c

/-- A step that concerns no registry leaves what registries keep alone. -/
theorem perform_registry {step : Step} (hstep : step.isPrivate = true)
    (s : Session World Handle) : (s.perform engine step).1.registry = s.registry := by
  cases step with
  | connect name options =>
    simp only [perform, bindResult_registry]
    exact (connect_references engine .owned options s).registry
  | clone source name =>
    exact onNamed_keeps (·.registry) fun c => (bind_references engine name c s).registry
  | drop name =>
    exact onNamed_keeps (·.registry) fun _ => (unbind_references engine name s).registry
  | execute target statement params =>
    cases target with
    | none => exact absurd hstep (by simp [Step.isPrivate])
    | some name =>
      refine onNamed_keeps (·.registry) fun c => ?_
      rw [rowsResult_fst]
      exact (execute_references engine c statement params s).registry
  | batch name sql =>
    exact onNamed_keeps (·.registry) fun c => (executeBatch_references engine c sql s).registry
  | close name => exact onNamed_keeps (·.registry) fun c => (close_references engine c s).registry
  | cancelled name polled =>
    refine onNamed_keeps (·.registry) fun c => ?_
    -- a call that is given up closes its connection at most
    unfold cancel
    split
    · exact (close_references engine c s).registry
    · rfl
  | sameHandle first second =>
    exact onNamed_keeps (·.registry) fun _ => onNamed_keeps (·.registry) fun _ => rfl
  | scope => exact absurd hstep (by simp [Step.isPrivate])
  | within => exact absurd hstep (by simp [Step.isPrivate])
  | acquire => exact absurd hstep (by simp [Step.isPrivate])
  | acquireMany => exact absurd hstep (by simp [Step.isPrivate])
  | shutdown => exact absurd hstep (by simp [Step.isPrivate])
  | isInitialized => rfl
  | describeRegistry => rfl
  | unknown => rfl
  | _ => exact onNamed_keeps (·.registry) fun _ => rfl

/-! ### Sessions and histories -/

/-- A session in which a registry has had these requests. -/
structure Follows (r : RegistryName) (asked : List Request) (s : Session World Handle) :
    Prop where
  history : History asked (s.registry r).slot s.connections.length
  /-- of the connections handed out only the one that is kept can be open -/
  kept : ∀ c, .got c ∈ asked → s.isClosed c = false → (s.registry r).slot = some c

/-- At the start a registry keeps nothing, as if it had been asked for nothing. -/
theorem start_follows (world : World) (registry : RegistryName → Options) (r : RegistryName) :
    Follows r [] (start world registry : Session World Handle) where
  history := .start
  kept _ hc := absurd hc List.not_mem_nil

variable {engine} {r : RegistryName} {asked : List Request} {s t : Session World Handle}

/-- Among the connections handed out before, none is opened again. -/
theorem Follows.kept_of_moves (h : Follows r asked s) (hmoves : Moves engine s t) {c : Nat}
    (hc : .got c ∈ asked) (hopen : t.isClosed c = false) : (s.registry r).slot = some c := by
  refine h.kept c hc ?_
  by_contra hclosed
  rw [Bool.not_eq_false] at hclosed
  rw [hmoves.isClosed_of_isClosed (h.history.lt_of_got hc) hclosed] at hopen
  exact absurd hopen (by simp)

/-- Whatever is done that leaves the slot alone is no request. -/
theorem Follows.keep (h : Follows r asked s) (hmoves : Moves engine s t)
    (hslot : (t.registry r).slot = (s.registry r).slot) : Follows r asked t where
  history := by
    rw [hslot]
    exact h.history.elsewhere hmoves.length_le
  kept c hc hopen := by
    rw [hslot]
    exact h.kept_of_moves hmoves hc hopen

/-- One more request, after which the registry keeps nothing but what it kept or handed out
    just now. -/
theorem Follows.add (h : Follows r asked s) (hmoves : Moves engine s t) {request : Request}
    (hhistory : History (asked ++ [request]) (t.registry r).slot t.connections.length)
    (hkept : ∀ c, (s.registry r).slot = some c → t.isClosed c = false →
      (t.registry r).slot = some c)
    (hgot : ∀ c, request = .got c → (t.registry r).slot = some c) :
    Follows r (asked ++ [request]) t where
  history := hhistory
  kept c hc hopen := by
    rcases List.mem_append.mp hc with hold | hnew
    · exact hkept c (h.kept_of_moves hmoves hold hopen) hopen
    · exact hgot c (List.mem_singleton.mp hnew).symm

section Operations

variable (engine)

/-- A request is the next on record, with what came of it. -/
theorem Follows.acquire (h : Follows r asked s) :
    Follows r (asked ++ [.ofResult (s.acquire engine r).2]) (s.acquire engine r).1 := by
  have hmoves := acquire_moves engine r s
  have hrefs := connect_references engine .shared (s.registry r).options s
  have hhistory := h.history
  rcases acquire_cases engine r s with
    ⟨c, hslot, heq⟩ | ⟨t, c, hslot, ht, heq⟩ | ⟨t, e, hslot, ht, heq⟩
  · rw [heq] at hmoves ⊢
    rw [hslot] at hhistory
    refine h.add hmoves ?_ (fun d hd _ => hd) (fun d hd => ?_)
    · show History _ (s.registry r).slot _
      rw [hslot]
      exact hhistory.shared
    · obtain rfl := Request.got.inj hd
      exact hslot
  · rw [heq] at hmoves ⊢
    rw [hslot] at hhistory
    obtain ⟨rfl, hlength⟩ := connect_eq_ok engine ht
    have hfilled := slot_setSlot_self r (some s.connections.length) t
    refine h.add hmoves ?_ (fun d hd _ => ?_) (fun d hd => ?_)
    · have hmore : (t.setSlot r (some s.connections.length)).connections.length =
          s.connections.length + 1 := hlength
      rw [hfilled, hmore]
      exact hhistory.opened
    -- the slot was empty, so nothing was kept
    · rw [hslot] at hd
      exact absurd hd (by simp)
    · obtain rfl := Request.got.inj hd
      exact hfilled
  · rw [ht] at hrefs
    rw [heq] at hmoves ⊢
    have hempty : (t.registry r).slot = none := by
      have hregistry : t.registry = s.registry := hrefs.registry
      rw [hregistry, hslot]
    rw [hslot] at hhistory
    refine h.add hmoves ?_ (fun d hd _ => ?_) (fun d hd => ?_)
    · show History _ (t.registry r).slot _
      rw [hempty]
      exact hhistory.missed.elsewhere hmoves.length_le
    · rw [hslot] at hd
      exact absurd hd (by simp)
    · exact absurd hd (by simp [Request.ofResult])

/-- Requests made together are on record one after the other, in the order in which they are
    answered. -/
theorem Follows.acquireMany (h : Follows r asked s) (count : Nat) :
    Follows r (asked ++ (s.acquireMany engine r count).2.map .ofResult)
      (s.acquireMany engine r count).1 := by
  induction count generalizing asked s with
  | zero => simpa [Session.acquireMany] using h
  | succ count ih =>
    have hfirst := h.acquire engine
    have hrest := ih hfirst
    rw [List.append_assoc] at hrest
    exact hrest

/-- A shutdown is the next on record, whether it had anything to release or not. -/
theorem Follows.shutdown (h : Follows r asked s) :
    Follows r (asked ++ [.shutdown]) (s.shutdown engine r).1 := by
  have hmoves := shutdown_moves engine r s
  have hempty : ((s.shutdown engine r).1.registry r).slot = none := by
    rw [(shutdown_references engine r s).registry]
    exact slot_setSlot_self r none s
  refine h.add hmoves ?_ (fun d hd hopen => ?_) (fun d hd => absurd hd (by simp))
  · rw [hempty]
    exact h.history.shutdown.elsewhere hmoves.length_le
  · -- what was kept is the one that is closed
    have hclosed : (s.shutdown engine r).1.isClosed d = true := by
      simp only [Session.shutdown, hd]
      exact (isClosed_release engine d d _).mpr (.inl rfl)
    rw [hclosed] at hopen
    exact absurd hopen (by simp)

/-- Where one registry shuts down, the other keeps what it kept. -/
private theorem slot_shutdown_of_ne {n : RegistryName} (hn : r ≠ n) (s : Session World Handle) :
    ((s.shutdown engine n).1.registry r).slot = (s.registry r).slot := by
  rw [(shutdown_references engine n s).registry]
  exact slot_setSlot_of_ne hn none s

/-- A request to one registry changes nothing that another keeps. -/
theorem slot_acquire_of_ne {n : RegistryName} (hn : r ≠ n) (s : Session World Handle) :
    ((s.acquire engine n).1.registry r).slot = (s.registry r).slot := by
  rcases acquire_references engine n s with hrefs | hrefs
  · rw [hrefs.registry]
  · rw [hrefs.registry]
    exact slot_setSlot_of_ne hn _ s

/-- Many requests to one registry change nothing that another keeps. -/
private theorem slot_acquireMany_of_ne {n : RegistryName} (hn : r ≠ n) (count : Nat)
    (s : Session World Handle) :
    ((s.acquireMany engine n count).1.registry r).slot = (s.registry r).slot := by
  induction count generalizing s with
  | zero => rfl
  | succ count ih => exact (ih _).trans (slot_acquire_of_ne engine hn s)

/-- A scope asks a registry for nothing when it is left. -/
theorem Follows.leave (h : Follows r asked s) (c : Nat) :
    Follows r asked ((s.close engine c).1.unhold engine) := by
  have hclosed : Follows r asked (s.close engine c).1 :=
    h.keep (close_moves engine c s) (by rw [(close_references engine c s).registry])
  exact hclosed.keep (unhold_moves engine _) (by rw [(unhold_references engine _).registry])

mutual

/-- **Every step adds its requests** to the record of a registry, with what came of them. -/
theorem perform_follows (step : Step) {asked : List Request} {s : Session World Handle}
    (h : Follows r asked s) :
    Follows r (asked ++ requests engine r step s) (s.perform engine step).1 := by
  have hmoves : Moves engine s (s.perform engine step).1 := (perform_changes engine step s).moves
  -- where the registry is not asked, it is enough that its slot stays as it is
  have hsilent (hnone : requests engine r step s = [])
      (hslot : ((s.perform engine step).1.registry r).slot = (s.registry r).slot) :
      Follows r (asked ++ requests engine r step s) (s.perform engine step).1 := by
    rw [hnone, List.append_nil]
    exact h.keep hmoves hslot
  cases step with
  | acquire name as =>
    by_cases hr : r = name
    · subst hr
      simp only [requests, if_pos, perform]
      exact (h.acquire engine).keep (bindResult_moves engine as _)
        (by rw [bindResult_registry])
    · refine hsilent (by simp [requests, Ne.symm hr]) ?_
      simp only [perform, bindResult_registry]
      exact slot_acquire_of_ne engine hr s
  | acquireMany count =>
    by_cases hr : r = .session
    · subst hr
      simpa [requests, perform] using h.acquireMany engine count
    · refine hsilent (by simp [requests, hr]) ?_
      exact slot_acquireMany_of_ne engine hr count s
  | shutdown name =>
    by_cases hr : r = name
    · subst hr
      simpa [requests, perform] using h.shutdown engine
    · refine hsilent (by simp [requests, Ne.symm hr]) ?_
      exact slot_shutdown_of_ne engine hr s
  | execute target statement params =>
    cases target with
    | some name =>
      refine hsilent (requests_of_isPrivate engine rfl r s) ?_
      rw [perform_registry engine rfl s]
    | none =>
      simp only [perform, rowsResult_fst] at hsilent ⊢
      by_cases hr : r = .process
      · subst hr
        simp only [requests, if_pos]
        exact (h.acquire engine).keep (executeShared_moves engine statement params s)
          (by rw [executeShared_registry])
      · refine hsilent (by simp [requests, hr]) ?_
        rw [executeShared_registry]
        exact slot_acquire_of_ne engine hr s
  | scope name steps leave =>
    cases hname : s.named? name with
    | none =>
      refine hsilent (by simp [requests, hname]) ?_
      rw [(perform_fst_of_named?_eq_none engine hname).2.2.1]
    | some c =>
      rw [perform_scope_fst engine hname]
      simp only [requests, hname]
      have hentered : Follows r asked (s.hold c) := h.keep (hold_moves engine c s) rfl
      exact (runAll_follows steps hentered).leave engine c
  | within name nickname steps result =>
    cases hname : s.named? name with
    | none =>
      refine hsilent (by simp [requests, hname]) ?_
      rw [(perform_fst_of_named?_eq_none engine hname).2.2.2]
    | some c =>
      rw [perform_within_fst engine hname]
      simp only [requests, hname]
      have hentered : Follows r asked (s.hold c) := h.keep (hold_moves engine c s) rfl
      have hbegun : Follows r asked ((s.hold c).bind engine nickname c) :=
        hentered.keep (bind_moves engine nickname c _)
          (by rw [(bind_references engine nickname c _).registry])
      exact (runUntilError_follows steps hbegun).leave engine c
  | _ =>
    refine hsilent (requests_of_isPrivate engine rfl r s) ?_
    rw [perform_registry engine rfl s]

/-- All steps of a program add their requests to the record, one step after the other. -/
theorem runAll_follows (steps : List Step) {asked : List Request} {s : Session World Handle}
    (h : Follows r asked s) :
    Follows r (asked ++ requestsInAll engine r steps s) (s.runAll engine steps).1 := by
  cases steps with
  | nil =>
    rw [requestsInAll, List.append_nil]
    exact h
  | cons step rest =>
    have hstep := (perform_follows step h).keep (tell_moves engine _) rfl
    simp only [requestsInAll, ← List.append_assoc]
    exact runAll_follows rest hstep

/-- So do its steps up to the first error. -/
theorem runUntilError_follows (steps : List Step) {asked : List Request}
    {s : Session World Handle} (h : Follows r asked s) :
    Follows r (asked ++ requestsBeforeError engine r steps s)
      (s.runUntilError engine steps).1 := by
  cases steps with
  | nil =>
    rw [requestsBeforeError, List.append_nil]
    exact h
  | cons step rest =>
    have hstep := (perform_follows step h).keep (tell_moves engine _) rfl
    cases herror : (s.perform engine step).2.error? with
    | some e =>
      simp only [requestsBeforeError, runUntilError, herror]
      exact hstep
    | none =>
      simp only [requestsBeforeError, runUntilError, herror, ← List.append_assoc]
      exact runUntilError_follows rest hstep

end

end Operations

end Session

end SqlClient
