import SqlClient.Proofs.Session.Coherence

namespace SqlClient.Session

/-!
# What registries keep

A registry keeps the connection it opened, and keeps it open: its users cannot close it, and
it is not let go of while it is in the slot.  When the registry shuts down, it empties the
slot and closes the connection.  So the shared connections that are open are the ones in the
slots, and no two registries keep the same.

* `IsOpenShared` — an open connection that a registry opened.
* `Registered` — what holds of them.
* `Change.registered`, `Changes.registered` — every change keeps it so.
-/

variable {World Handle : Type}

/-- An open connection that a registry opened. -/
def IsOpenShared (s : Session World Handle) (c : Nat) : Prop :=
  s.isShared c = true ∧ s.isClosed c = false

/-- The shared connections that are open are those in the slots, a different one in each. -/
structure Registered (s : Session World Handle) : Prop where
  isOpenShared_iff : ∀ c, s.IsOpenShared c ↔ ∃ r, (s.registry r).slot = some c
  distinct : ∀ r r' c, (s.registry r).slot = some c → (s.registry r').slot = some c → r = r'

/-- The connection that a registry keeps is open, so it can be handed out. -/
theorem Registered.isClosed_of_slot {s : Session World Handle} (h : Registered s)
    {r : RegistryName} {c : Nat} (hc : (s.registry r).slot = some c) : s.isClosed c = false :=
  ((h.isOpenShared_iff c).mpr ⟨r, hc⟩).2

/-- At the start registries keep nothing, and nothing of theirs is open. -/
theorem start_registered (world : World) (registry : RegistryName → Options) :
    Registered (start world registry : Session World Handle) where
  isOpenShared_iff c := by simp [IsOpenShared, isShared, start]
  distinct r r' c h := by simp [start] at h

/-- Where neither the slots change nor which shared connections are open. -/
theorem Registered.of_same {s t : Session World Handle} (h : Registered s)
    (hregistry : t.registry = s.registry) (hopen : ∀ c, t.IsOpenShared c ↔ s.IsOpenShared c) :
    Registered t where
  isOpenShared_iff c := by rw [hopen, hregistry, h.isOpenShared_iff]
  distinct := by
    rw [hregistry]
    exact h.distinct

section Operations

variable (engine : Engine World Handle)

/-! ### Closing -/

/-- Releasing a connection takes that one from the open ones that registries have opened, and no
    other. -/
theorem isOpenShared_release (c d : Nat) (s : Session World Handle) :
    (s.release engine c).1.IsOpenShared d ↔ d ≠ c ∧ s.IsOpenShared d := by
  have hclosed := isClosed_release engine c d s
  rw [← not_iff_not, Bool.not_eq_true, not_or, Bool.not_eq_true] at hclosed
  rw [IsOpenShared, IsOpenShared, isShared_release, hclosed]
  exact and_left_comm

/-- Releasing any other connection leaves registries theirs. -/
theorem Registered.release {s : Session World Handle} (h : Registered s) {c : Nat}
    (hc : ¬ s.IsOpenShared c) : Registered (s.release engine c).1 := by
  refine h.of_same (release_references engine c s).registry fun d => ?_
  rw [isOpenShared_release]
  refine and_iff_right_of_imp ?_
  rintro hd rfl
  exact hc hd

/-- The users of a connection cannot close it if it is shared. -/
theorem Registered.close {s : Session World Handle} (h : Registered s) (c : Nat) :
    Registered (s.close engine c).1 := by
  unfold Session.close
  split
  · exact h
  · rename_i hshared
    exact h.release engine fun hc => hshared hc.1

/-- A connection that is let go is not one that a registry keeps, as that would be a reference. -/
theorem Registered.letGo {s : Session World Handle} (h : Registered s) (c : Nat) :
    Registered (s.letGo engine c) := by
  unfold Session.letGo
  split
  · exact h
  · rename_i hforgotten
    refine h.release engine fun hc => hforgotten ?_
    obtain ⟨r, hr⟩ := (h.isOpenShared_iff c).mp hc
    exact isReferenced_of_slot hr

/-- Which names there are, and which scopes, makes no difference to what registries keep. -/
theorem Registered.refer {s : Session World Handle} (h : Registered s)
    (names : List (String × Nat)) (held : List Nat) (told : Nat) :
    Registered { s with names := names, held := held, told := told } :=
  h.of_same rfl fun _ => Iff.rfl

/-- A name that is bound makes no difference to what registries keep; at most a connection that is
    not kept is released. -/
theorem Registered.bind {s : Session World Handle} (h : Registered s) (name : String)
    (c : Nat) : Registered (s.bind engine name c) := by
  have hnames := h.refer (insertName name c s.names) s.held s.told
  unfold Session.bind
  cases s.named? name with
  | none => exact hnames
  | some old => exact hnames.letGo engine old

/-- A name that is given up makes none either. -/
theorem Registered.unbind {s : Session World Handle} (h : Registered s) (name : String) :
    Registered (s.unbind engine name) := by
  unfold Session.unbind
  cases s.named? name with
  | none => exact h
  | some c => exact (h.refer (s.names.filter (·.1 ≠ name)) s.held s.told).letGo engine c

/-- Neither does a scope that is left. -/
theorem Registered.unhold {s : Session World Handle} (h : Registered s) :
    Registered (s.unhold engine) := by
  unfold Session.unhold
  split
  · exact h
  · rename_i c rest _
    exact (h.refer s.names rest s.told).letGo engine c

/-- Shutting down closes the connection in the slot with emptying it. -/
theorem Registered.shutdown {s : Session World Handle} (h : Registered s) (r : RegistryName) :
    Registered (s.shutdown engine r).1 := by
  unfold Session.shutdown
  split
  · exact h
  · rename_i c hslot
    have hslots : ∀ n d, (((s.setSlot r none).release engine c).1.registry n).slot = some d ↔
        n ≠ r ∧ (s.registry n).slot = some d := by
      intro n d
      rw [(release_references engine c _).registry]
      by_cases hn : n = r
      · subst hn
        simp [slot_setSlot_self]
      · simp [slot_setSlot_of_ne hn, hn]
    refine ⟨fun d => ?_, fun n n' d hn hn' => ?_⟩
    · have hopen : (s.setSlot r none).IsOpenShared d ↔ s.IsOpenShared d := Iff.rfl
      simp only [hslots, isOpenShared_release, hopen, h.isOpenShared_iff]
      constructor
      · rintro ⟨hd, n, hn⟩
        refine ⟨n, ?_, hn⟩
        rintro rfl
        exact hd (Option.some.inj (hn.symm.trans hslot))
      · rintro ⟨n, hne, hn⟩
        refine ⟨?_, n, hn⟩
        -- the connection that is closed was in no other slot
        rintro rfl
        exact hne (h.distinct n r d hn hslot)
    · exact h.distinct n n' d ((hslots n d).mp hn).2 ((hslots n' d).mp hn').2

/-! ### Opening -/

/-- A connection opened for a registry is one more that is open and shared. -/
theorem isOpenShared_connect {s t : Session World Handle} {ownership : Ownership}
    {options : Options} {c : Nat} (ht : s.connect engine ownership options = (t, .ok c))
    (d : Nat) :
    t.IsOpenShared d ↔ s.IsOpenShared d ∨ d = s.connections.length ∧ ownership = .shared := by
  rcases connect_cases engine ownership options s with ⟨world, handle, _, heq⟩ | ⟨_, _, _, heq⟩
  · rw [ht] at heq
    obtain ⟨rfl, -⟩ := Prod.mk.inj heq
    rw [IsOpenShared, IsOpenShared, isClosed_eq, isClosed_eq, handleNumber?_append rfl]
    -- below the new connection nothing changes, and above it there is nothing
    rcases lt_trichotomy d s.connections.length with hlt | rfl | hgt
    · rw [isShared_append rfl hlt]
      simp [hlt.ne]
    · simp [isShared]
    · have hnone : ¬ d < s.connections.length := by omega
      have hnone' : ¬ d < s.connections.length + 1 := by omega
      simp [isShared, hnone, hnone', hgt.ne']
  · rw [ht] at heq
    exact absurd (Prod.mk.inj heq).2 (by simp)

/-- What fails to open is no open connection of a registry. -/
theorem isOpenShared_connect_error {s t : Session World Handle} {ownership : Ownership}
    {options : Options} {e : Error} (ht : s.connect engine ownership options = (t, .error e))
    (d : Nat) : t.IsOpenShared d ↔ s.IsOpenShared d := by
  rcases connect_cases engine ownership options s with ⟨_, _, _, heq⟩ | ⟨_, _, _, heq⟩
  · rw [ht] at heq
    exact absurd (Prod.mk.inj heq).2 (by simp)
  · rw [ht] at heq
    obtain ⟨rfl, -⟩ := Prod.mk.inj heq
    rfl

/-- Opening a connection that fails changes nothing for registries. -/
theorem Registered.connect_error {s t : Session World Handle} (h : Registered s)
    {ownership : Ownership} {options : Options} {e : Error}
    (ht : s.connect engine ownership options = (t, .error e)) : Registered t := by
  have hrefs := connect_references engine ownership options s
  rw [ht] at hrefs
  exact h.of_same hrefs.registry (isOpenShared_connect_error engine ht)

/-- A connection that is opened under a name is not one of a registry. -/
theorem Registered.bindResult_connect {s : Session World Handle} (h : Registered s)
    (name : String) (options : Options) :
    Registered (bindResult engine name (s.connect engine .owned options)).1 := by
  have hrefs := connect_references engine .owned options s
  rcases ht : s.connect engine .owned options with ⟨t, e | c⟩
  · exact h.connect_error engine ht
  · rw [ht] at hrefs
    refine (h.of_same hrefs.registry fun d => ?_).bind engine name c
    rw [isOpenShared_connect engine ht]
    simp

/-- The connection that is opened for a registry goes into its slot. -/
theorem Registered.acquire {s : Session World Handle} (h : Registered s) (hs : Coherent s)
    (r : RegistryName) : Registered (s.acquire engine r).1 := by
  have hrefs := connect_references engine .shared (s.registry r).options s
  rcases acquire_cases engine r s with ⟨c, _, heq⟩ | ⟨t, c, hslot, ht, heq⟩ | ⟨t, e, _, ht, heq⟩
  · rw [heq]
    exact h
  · rw [heq]
    rw [ht] at hrefs
    have hregistry : t.registry = s.registry := hrefs.registry
    obtain ⟨rfl, -⟩ := connect_eq_ok engine ht
    have hslots : ∀ n d, ((t.setSlot r (some s.connections.length)).registry n).slot = some d ↔
        n = r ∧ d = s.connections.length ∨ (s.registry n).slot = some d := by
      intro n d
      by_cases hn : n = r
      · subst hn
        simp [slot_setSlot_self, hslot, eq_comm]
      · simp [slot_setSlot_of_ne hn, hn, hregistry]
    -- a connection in a slot was opened before the new one
    have hbefore : ∀ n d, (s.registry n).slot = some d → d ≠ s.connections.length :=
      fun n d hn => (hs.opened d (isReferenced_of_slot hn)).ne
    refine ⟨fun d => ?_, fun n n' d hn hn' => ?_⟩
    · have hopen : (t.setSlot r (some s.connections.length)).IsOpenShared d ↔ t.IsOpenShared d :=
        Iff.rfl
      simp only [hslots, hopen, isOpenShared_connect engine ht, h.isOpenShared_iff, exists_or]
      simp [or_comm]
    · rcases (hslots n d).mp hn with ⟨rfl, hd⟩ | hold
      · rcases (hslots n' d).mp hn' with ⟨rfl, -⟩ | hold'
        · rfl
        · exact absurd hd (hbefore n' d hold')
      · rcases (hslots n' d).mp hn' with ⟨rfl, hd⟩ | hold'
        · exact absurd hd (hbefore n d hold)
        · exact h.distinct n n' d hold hold'
  · rw [heq]
    exact h.connect_error engine ht

/-! ### Statements -/

/-- A statement leaves what registries keep as open as it was. -/
theorem Registered.execute {s : Session World Handle} (h : Registered s) (c : Nat)
    (statement : String) (params : List Value) :
    Registered (s.execute engine c statement params).1 := by
  refine h.of_same (execute_references engine c statement params s).registry fun d => ?_
  rw [IsOpenShared, IsOpenShared, isClosed_execute]
  rcases execute_cases engine c statement params s with ⟨_, heq⟩ | ⟨_, _, _, _, _, _, heq⟩
  · rw [heq]
    exact Iff.rfl
  · rw [heq]
    exact and_congr_left fun _ => by rw [← isShared_setHandle s c d]; rfl

/-- So does a batch. -/
theorem Registered.executeBatch {s : Session World Handle} (h : Registered s) (c : Nat)
    (sql : String) : Registered (s.executeBatch engine c sql).1 := by
  refine h.of_same (executeBatch_references engine c sql s).registry fun d => ?_
  rw [IsOpenShared, IsOpenShared, isClosed_executeBatch]
  rcases executeBatch_cases engine c sql s with ⟨_, heq⟩ | ⟨_, _, _, _, _, _, heq⟩
  · rw [heq]
    exact Iff.rfl
  · rw [heq]
    exact and_congr_left fun _ => by rw [← isShared_setHandle s c d]; rfl

end Operations

/-! ### Every change -/

variable {engine : Engine World Handle}

/-- Every change that leaves scopes alone keeps to it that what a registry has opened and is open
    is kept by it. -/
theorem QuietChange.registered {s t : Session World Handle} (h : QuietChange engine s t)
    (hs : Coherent s) (hr : Registered s) : Registered t := by
  cases h with
  | connect name options => exact hr.bindResult_connect engine name options
  | bind name c _ => exact hr.bind engine name c
  | unbind name => exact hr.unbind engine name
  | execute c statement params => exact hr.execute engine c statement params
  | batch c sql => exact hr.executeBatch engine c sql
  | acquire r => exact hr.acquire engine hs r
  | tell => exact hr.refer s.names s.held s.log.length

/-- Every change does, those that enter and leave scopes included. -/
theorem Change.registered {s t : Session World Handle} (h : Change engine s t)
    (hs : Coherent s) (hr : Registered s) : Registered t := by
  cases h with
  | quiet _ h => exact h.registered hs hr
  | hold c _ => exact hr.refer s.names (c :: s.held) s.told
  | unhold => exact hr.unhold engine
  | close c => exact hr.close engine c
  | shutdown r => exact hr.shutdown engine r

/-- So do changes one after the other. -/
theorem Changes.registered {s t : Session World Handle} (h : Changes engine s t)
    (hs : Coherent s) (hr : Registered s) : Registered t := by
  induction h with
  | refl => exact hr
  | tail hchanges hchange ih => exact hchange.registered (Changes.coherent hchanges hs) ih

end SqlClient.Session
