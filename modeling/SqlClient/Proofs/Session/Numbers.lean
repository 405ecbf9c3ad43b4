import SqlClient.Proofs.Session.Closing

namespace SqlClient.Session

/-!
# Numbers of handles

Handles are numbered by the attempts to open them.  So no two connections have the same
number, and the number of a connection stays its own when the connection is closed.  It is
closed in the log exactly when it is closed in the session.

* `Numbered` — open connections have numbers of their own.
* `BelongsTo` — a number that one connection has, or had until it was closed.
* `Changes.closings` — what the log of a run says of such a number.
-/

variable {World Handle : Type} {engine : Engine World Handle} {s t : Session World Handle}
  {c k : Nat}

/-! ### Numbers in use -/

/-- Open connections have numbers of their own, all of them given out by an attempt. -/
structure Numbered (s : Session World Handle) : Prop where
  le : ∀ c k, s.handleNumber? c = some k → k ≤ s.attempts
  unique : ∀ c d k, s.handleNumber? c = some k → s.handleNumber? d = some k → c = d

/-- At the start there are no handles, so none has a number. -/
theorem start_numbered (world : World) (registry : RegistryName → Options) :
    Numbered (start world registry : Session World Handle) where
  le c k h := by simp [handleNumber?, handle?, start] at h
  unique c d k h := by simp [handleNumber?, handle?, start] at h

/-- Where no connection shows a new number, no two of them show one number, as before. -/
theorem Numbered.of_handleNumber? (hs : Numbered s) (hattempts : s.attempts ≤ t.attempts)
    (h : ∀ c k, t.handleNumber? c = some k → s.handleNumber? c = some k) : Numbered t where
  le c k hc := (hs.le c k (h c k hc)).trans hattempts
  unique c d k hc hd := hs.unique c d k (h c k hc) (h d k hd)

/-- A move gives a new number to a handle that it opens, and the others keep theirs. -/
theorem Move.numbered (h : Move engine s t) (hs : Numbered s) : Numbered t := by
  cases h with
  | refer names held registry tasks told => exact hs.of_handleNumber? le_rfl fun _ _ hc => hc
  | opened ownership options world handle hopen =>
    -- the new number is larger than all before
    have hnew := handleNumber?_append (s := s) (t := { s with
      world := world, attempts := s.attempts + 1, tasks := s.tasks + 1, nextId := s.nextId + 1,
      log := s.log ++ [.opened (s.attempts + 1)],
      connections := s.connections ++ [⟨s.nextId, ownership, some (s.attempts + 1, handle)⟩] }) rfl
    have hcases : ∀ d n, (if d = s.connections.length then some (s.attempts + 1)
        else s.handleNumber? d) = some n →
        d = s.connections.length ∧ n = s.attempts + 1 ∨ s.handleNumber? d = some n := by
      intro d n hd
      split at hd
      · rename_i hlast
        exact .inl ⟨hlast, (Option.some.inj hd).symm⟩
      · exact .inr hd
    refine ⟨fun d n hd => ?_, fun d e n hd he => ?_⟩
    · rw [hnew] at hd
      rcases hcases d n hd with ⟨_, rfl⟩ | hold
      · exact le_rfl
      · exact (hs.le d n hold).trans (Nat.le_succ _)
    · rw [hnew] at hd he
      rcases hcases d n hd with ⟨rfl, rfl⟩ | hold
      · rcases hcases e _ he with ⟨rfl, _⟩ | hold'
        · rfl
        · exact absurd (hs.le e _ hold') (Nat.not_succ_le_self _)
      · rcases hcases e n he with ⟨rfl, rfl⟩ | hold'
        · exact absurd (hs.le d _ hold) (Nat.not_succ_le_self _)
        · exact hs.unique d e n hold hold'
  | missed options world hmissed =>
    exact hs.of_handleNumber? (Nat.le_succ _) fun _ _ hc => hc
  | asked d number handle handle' world event hd hstatement hnumber =>
    refine hs.of_handleNumber? le_rfl fun c k hc => ?_
    rw [← handleNumber?_setHandle_some hd handle' c]
    exact hc
  | released d number handle world hd =>
    refine hs.of_handleNumber? le_rfl fun c k hc => ?_
    have hkept : (s.setHandle d none).handleNumber? c = some k := hc
    rw [handleNumber?_setHandle_none] at hkept
    split at hkept
    · exact absurd hkept (by simp)
    · exact hkept

/-- The states of a program come from its start by changes. -/
theorem Reachable.changes {world : World} {registry : RegistryName → Options}
    (h : Reachable engine world registry s) : Changes engine (Session.start world registry) s := by
  induction h with
  | start => exact .refl
  | perform s step _ ih => exact ih.trans (perform_changes engine step s)
  | tell s _ ih => exact ih.tail (.quiet _ _ (.tell s))
  | scope s name c _ hname ih => exact ih.tail (.hold s c (isReferenced_of_named? hname))
  | within s name nickname c _ hname ih =>
    exact (ih.tail (.hold s c (isReferenced_of_named? hname))).tail
      (.quiet _ _ (bind_hold_quietChange engine nickname c s))

/-- Whatever steps lead to, no two connections show the number of one handle. -/
theorem Reachable.numbered {world : World} {registry : RegistryName → Options}
    (h : Reachable engine world registry s) : Numbered s :=
  h.changes.keeps (fun _ _ hmove => hmove.numbered) (start_numbered world registry)

/-! ### The number of one connection -/

/-- The number of a connection: no other has it, and the connection has no other, though it
    may have lost it. -/
structure BelongsTo (c k : Nat) (s : Session World Handle) : Prop where
  opened : c < s.connections.length
  le : k ≤ s.attempts
  holder : ∀ d, s.handleNumber? d = some k → d = c
  number : ∀ n, s.handleNumber? c = some n → n = k

/-- Where that is so, a handle belongs to the connection that shows its number. -/
theorem Numbered.belongsTo (hs : Numbered s) (hc : s.handleNumber? c = some k) :
    BelongsTo c k s where
  opened := lt_of_handleNumber?_eq_some hc
  le := hs.le c k hc
  holder d hd := hs.unique d c k hd hc
  number _ hn := Option.some.inj (hn.symm.trans hc)

/-- Where no number is new, the number stays the connection's. -/
theorem BelongsTo.of_handleNumber? (hs : BelongsTo c k s)
    (hlength : s.connections.length ≤ t.connections.length) (hattempts : s.attempts ≤ t.attempts)
    (h : ∀ d n, t.handleNumber? d = some n → s.handleNumber? d = some n) : BelongsTo c k t where
  opened := hs.opened.trans_le hlength
  le := hs.le.trans hattempts
  holder d hd := hs.holder d (h d k hd)
  number n hn := hs.number n (h c n hn)

/-- Whether the connection has its handle, as a number. -/
def uses (s : Session World Handle) (c : Nat) : Nat := (!s.isClosed c).toNat

/-- A closed connection uses no handle. -/
theorem uses_of_closed (h : s.isClosed c = true) : s.uses c = 0 := by
  simp [uses, h]

/-- An open connection uses one handle, whatever it has done with it. -/
theorem uses_of_open (h : s.isClosed c = false) : s.uses c = 1 := by
  simp [uses, h]

/-- How many handles a connection uses depends on the number that it shows. -/
theorem uses_congr (h : t.handleNumber? c = s.handleNumber? c) : t.uses c = s.uses c := by
  simp only [uses, isClosed_eq, h]

/-- A move keeps the number, and logs its closing when it takes it away. -/
theorem Move.closings (h : Move engine s t) (hs : BelongsTo c k s) :
    BelongsTo c k t ∧ ∃ calls, t.log = s.log ++ calls ∧
      calls.count (.closed k) + t.uses c = s.uses c := by
  cases h with
  | refer names held registry tasks told =>
    refine ⟨hs.of_handleNumber? le_rfl le_rfl fun _ _ hd => hd, [], by simp, ?_⟩
    simp [uses, isClosed, handle?]
  | opened ownership options world handle hopen =>
    have hnew := handleNumber?_append (s := s) (t := { s with
      world := world, attempts := s.attempts + 1, tasks := s.tasks + 1, nextId := s.nextId + 1,
      log := s.log ++ [.opened (s.attempts + 1)],
      connections := s.connections ++ [⟨s.nextId, ownership, some (s.attempts + 1, handle)⟩] }) rfl
    have hmine := hnew c
    rw [if_neg hs.opened.ne] at hmine
    refine ⟨⟨?_, Nat.le_succ_of_le hs.le, fun d hd => ?_, fun n hn => ?_⟩, _, rfl, ?_⟩
    · simpa using Nat.lt_succ_of_lt hs.opened
    · rw [hnew] at hd
      split at hd
      -- the new connection has a larger number
      · exact absurd (Option.some.inj hd ▸ hs.le) (Nat.not_succ_le_self _)
      · exact hs.holder d hd
    · exact hs.number n (hmine ▸ hn)
    · rw [uses_congr hmine]
      simp
  | missed options world hmissed =>
    refine ⟨hs.of_handleNumber? le_rfl (Nat.le_succ _) fun _ _ hd => hd, _, rfl, ?_⟩
    rw [uses_congr (t := { s with
      world := world, attempts := s.attempts + 1, tasks := s.tasks + 1,
      log := s.log ++ [.opened (s.attempts + 1)] })
      (s := s) rfl]
    simp
  | asked d number handle handle' world event hd hstatement hnumber =>
    have hsame : ∀ e, (s.setHandle d (some (number, handle'))).handleNumber? e =
        s.handleNumber? e := handleNumber?_setHandle_some hd handle'
    refine ⟨hs.of_handleNumber? (length_setHandle s d _).ge le_rfl fun e n he => ?_, _, rfl, ?_⟩
    · rw [← hsame e]
      exact he
    · have huses : uses { s.setHandle d (some (number, handle')) with
          world := world, tasks := s.tasks + 1, log := s.log ++ [event] } c = s.uses c :=
        uses_congr (hsame c)
      -- a statement closes nothing
      have hevent : event ≠ .closed k := by
        rintro rfl
        exact absurd hstatement (by simp [Event.isStatement])
      rw [huses]
      simp [hevent]
  | released d number handle world hd =>
    have hnone : ∀ e, (s.setHandle d none).handleNumber? e =
        if e = d then none else s.handleNumber? e := handleNumber?_setHandle_none s d
    have hnumber : s.handleNumber? d = some number := by
      rw [handleNumber?, hd]
      rfl
    refine ⟨hs.of_handleNumber? (length_setHandle s d _).ge le_rfl fun e n he => ?_, _, rfl, ?_⟩
    · have he' : (s.setHandle d none).handleNumber? e = some n := he
      rw [hnone] at he'
      split at he'
      · exact absurd he' (by simp)
      · exact he'
    · have huses : uses { s.setHandle d none with
          world := world, log := s.log ++ [.closed number] } c = (s.setHandle d none).uses c := rfl
      rw [huses]
      by_cases hdc : d = c
      · subst hdc
        obtain rfl := hs.number number hnumber
        have hclosed : (s.setHandle d none).isClosed d = true := by
          rw [isClosed_eq_true, hnone, if_pos rfl]
        rw [uses_of_closed hclosed, uses_of_open (isClosed_eq_false.mpr ⟨_, hnumber⟩)]
        simp
      · -- another connection has another number
        have hne : Event.closed number ≠ .closed k := by
          rintro heq
          obtain rfl := Event.closed.inj heq
          exact hdc (hs.holder d hnumber)
        have hkept : (s.setHandle d none).handleNumber? c = s.handleNumber? c := by
          rw [hnone, if_neg (Ne.symm hdc)]
        rw [uses_congr hkept]
        simp [hne]

/-- **Closed in the log as in the session.** A run adds to the log, and among what it adds
    there is one closing of the number if the connection is closed in it, and else none. -/
theorem Changes.closings (h : Changes engine s t) (hs : BelongsTo c k s) :
    BelongsTo c k t ∧ ∃ calls, t.log = s.log ++ calls ∧
      calls.count (.closed k) + t.uses c = s.uses c := by
  have hmoves := h.moves
  clear h
  induction hmoves with
  | refl => exact ⟨hs, [], by simp, by simp⟩
  | tail _ hmove ih =>
    obtain ⟨hu, calls, hlog, hcount⟩ := ih
    obtain ⟨ht, more, hmore, hcount'⟩ := hmove.closings hu
    refine ⟨ht, calls ++ more, by rw [hmore, hlog, List.append_assoc], ?_⟩
    rw [List.count_append]
    omega

end SqlClient.Session
