import SqlClient.Proofs.Session.Changes

namespace SqlClient.Session

/-!
# Open connections are referred to

No connection is open that nothing refers to: whatever takes a reference away lets go of
the connection.  In the middle of such an operation one connection may be spared, the one
about to be let go of.

* `CoherentBut`, `Coherent` — where references point, and who keeps open connections.
* `Change.coherent`, `Changes.coherent` — every change keeps sessions coherent.
-/

variable {World Handle : Type}

/-- A session whose open connections are all referred to, save perhaps one. -/
structure CoherentBut (spare : Option Nat) (s : Session World Handle) : Prop where
  sorted : NamesSorted s.names
  /-- only connections that were opened are referred to -/
  opened : ∀ c, s.isReferenced c = true → c < s.connections.length
  /-- every open connection is referred to -/
  referenced : ∀ c, s.isClosed c = false → spare ≠ some c → s.isReferenced c = true
  /-- registries keep the connections that they opened -/
  shared : ∀ r c, (s.registry r).slot = some c → s.isShared c = true

/-- A session whose open connections are all referred to. -/
abbrev Coherent (s : Session World Handle) : Prop := CoherentBut none s

/-- Where nothing is spared, every open connection is referred to. -/
theorem Coherent.isReferenced {s : Session World Handle} (h : Coherent s) {c : Nat}
    (hc : s.isClosed c = false) : s.isReferenced c = true :=
  h.referenced c hc (by simp)

/-- Where nothing is spared, what nothing refers to is closed. -/
theorem Coherent.isClosed {s : Session World Handle} (h : Coherent s) {c : Nat}
    (hc : s.isReferenced c = false) : s.isClosed c = true := by
  by_contra hopen
  have href : s.isReferenced c = true := h.isReferenced (Bool.not_eq_true _ ▸ hopen)
  rw [hc] at href
  exact absurd href (by simp)

/-- If everything open is referred to, it is so but for any connection one may name. -/
theorem Coherent.but {s : Session World Handle} (h : Coherent s) (spare : Option Nat) :
    CoherentBut spare s :=
  ⟨h.sorted, h.opened, fun _ hc _ => h.isReferenced hc, h.shared⟩

/-- At the start nothing is referred to, and nothing is open. -/
theorem start_coherent (world : World) (registry : RegistryName → Options) :
    Coherent (start world registry : Session World Handle) where
  sorted := List.Pairwise.nil
  opened c hc := by
    rw [isReferenced_iff] at hc
    simp [start] at hc
  referenced c hc := by simp [isClosed, handle?, start] at hc
  shared r c hr := by simp [start] at hr

variable {engine : Engine World Handle}

/-- Moves that leave the references alone keep a session coherent. -/
theorem CoherentBut.of_sameReferences {spare : Option Nat} {s t : Session World Handle}
    (h : CoherentBut spare s) (hmoves : Moves engine s t) (hrefs : SameReferences s t)
    (hopen : ∀ c, t.isClosed c = false → s.isClosed c = false) : CoherentBut spare t where
  sorted := by
    rw [hrefs.names]
    exact h.sorted
  opened c hc := by
    rw [hrefs.isReferenced] at hc
    exact (h.opened c hc).trans_le hmoves.length_le
  referenced c hc hspare := by
    rw [hrefs.isReferenced]
    exact h.referenced c (hopen c hc) hspare
  shared r c hr := by
    rw [hrefs.registry] at hr
    rw [hmoves.isShared_eq (h.opened c (isReferenced_of_slot hr))]
    exact h.shared r c hr

/-! ### Closing -/

section Operations

variable (engine)

/-- Releasing a connection takes the number from that one, and leaves those of all others. -/
theorem handleNumber?_release (c d : Nat) (s : Session World Handle) :
    (s.release engine c).1.handleNumber? d = if d = c then none else s.handleNumber? d := by
  rcases release_cases engine c s with ⟨hc, heq⟩ | ⟨number, handle, world, _, hc, heq⟩
  · rw [heq]
    split
    · rename_i hd
      rw [hd, handleNumber?, hc]
      rfl
    · rfl
  · rw [heq]
    exact handleNumber?_setHandle_none s c d

/-- Releasing a connection closes that one, and no other. -/
theorem isClosed_release (c d : Nat) (s : Session World Handle) :
    (s.release engine c).1.isClosed d = true ↔ d = c ∨ s.isClosed d = true := by
  rw [isClosed_eq_true, isClosed_eq_true, handleNumber?_release]
  by_cases h : d = c
  · simp [h]
  · simp [h]

/-- Its users close a connection unless a registry owns it. -/
theorem isClosed_close (c d : Nat) (s : Session World Handle) :
    (s.close engine c).1.isClosed d = true ↔
      (d = c ∧ s.isShared c = false) ∨ s.isClosed d = true := by
  unfold close
  cases hshared : s.isShared c with
  | true => simp
  | false =>
    rw [if_neg (by simp), isClosed_release]
    simp

/-- What is open after a release is not the connection that was released, and was open before. -/
theorem open_of_open_release {c d : Nat} {s : Session World Handle}
    (h : (s.release engine c).1.isClosed d = false) : d ≠ c ∧ s.isClosed d = false := by
  have hneither := mt (isClosed_release engine c d s).mpr (by simp [h])
  rw [not_or, Bool.not_eq_true] at hneither
  exact hneither

/-- Releasing the one connection that may be without a reference leaves none that may. -/
theorem CoherentBut.release {c : Nat} {s : Session World Handle} (h : CoherentBut (some c) s) :
    Coherent (s.release engine c).1 := by
  have hkept := h.of_sameReferences (release_moves engine c s) (release_references engine c s)
    fun d hd => (open_of_open_release engine hd).2
  refine ⟨hkept.sorted, hkept.opened, fun d hd _ => hkept.referenced d hd ?_, hkept.shared⟩
  -- the spared connection is the one just closed
  intro heq
  exact (open_of_open_release engine hd).1 (Option.some.inj heq).symm

/-- So does letting go of it: if it is still referred to, it need not be spared. -/
theorem CoherentBut.letGo {c : Nat} {s : Session World Handle} (h : CoherentBut (some c) s) :
    Coherent (s.letGo engine c) := by
  unfold Session.letGo
  split
  · rename_i hc
    refine ⟨h.sorted, h.opened, fun d hd _ => ?_, h.shared⟩
    by_cases hdc : d = c
    · rw [hdc]
      exact hc
    · exact h.referenced d hd fun heq => hdc (Option.some.inj heq).symm
  · exact h.release engine

/-- Closing a connection by hand keeps every open connection referred to. -/
theorem Coherent.close {s : Session World Handle} (h : Coherent s) (c : Nat) :
    Coherent (s.close engine c).1 := by
  unfold Session.close
  split
  · exact h
  · exact (h.but (some c)).release engine

/-! ### Naming and using -/

/-- Where a name is put in place of another use, the connection that had it may be without a
    reference. -/
theorem CoherentBut.insertName {c : Nat} {s : Session World Handle}
    (h : CoherentBut (some c) s) (hc : c < s.connections.length) (name : String) :
    CoherentBut (s.named? name) { s with names := Session.insertName name c s.names } where
  sorted := insertName_sorted h.sorted name c
  opened d hd := by
    rw [isReferenced_iff] at hd
    rcases hd with ⟨n, hmem⟩ | hheld
    · rcases (mem_insertName h.sorted (n, d)).mp hmem with heq | ⟨_, hmem⟩
      · rw [(Prod.mk.inj heq).2]
        exact hc
      · exact h.opened d (isReferenced_iff.mpr (.inl ⟨n, hmem⟩))
    · exact h.opened d (isReferenced_iff.mpr (.inr hheld))
  referenced d hd hspare := by
    rw [isReferenced_iff]
    by_cases hdc : d = c
    · exact .inl ⟨name, (mem_insertName h.sorted (name, d)).mpr (.inl (by rw [hdc]))⟩
    · have hbefore : s.isReferenced d = true :=
        h.referenced d hd fun heq => hdc (Option.some.inj heq).symm
      -- another connection keeps its names, but for the one taken from it
      rcases isReferenced_iff.mp hbefore with ⟨n, hmem⟩ | hheld
      · have hne : n ≠ name := by
          rintro rfl
          exact hspare (named?_of_mem h.sorted hmem)
        exact .inl ⟨n, (mem_insertName h.sorted (n, d)).mpr (.inr ⟨hne, hmem⟩)⟩
      · exact .inr hheld
  shared := h.shared

/-- A connection that was just opened may be referred to by nothing; once a name is bound to it,
    it is like the others. -/
theorem CoherentBut.bind {c : Nat} {s : Session World Handle} (h : CoherentBut (some c) s)
    (hc : c < s.connections.length) (name : String) : Coherent (s.bind engine name c) := by
  have hinsert := h.insertName hc name
  unfold Session.bind
  cases hname : s.named? name with
  | none =>
    rw [hname] at hinsert
    exact hinsert
  | some old =>
    rw [hname] at hinsert
    exact hinsert.letGo engine

/-- Where a name is given up, its connection keeps another reference or is released. -/
theorem Coherent.unbind {s : Session World Handle} (h : Coherent s) (name : String) :
    Coherent (s.unbind engine name) := by
  unfold Session.unbind
  cases hname : s.named? name with
  | none => exact h
  | some c =>
    refine CoherentBut.letGo engine ⟨h.sorted.filter _, ?_, ?_, h.shared⟩
    · intro d hd
      apply h.opened d
      rw [isReferenced_iff] at hd ⊢
      rcases hd with ⟨n, hmem⟩ | hheld
      · exact .inl ⟨n, (List.mem_filter.mp hmem).1⟩
      · exact .inr hheld
    · intro d hd hspare
      have hbefore := h.isReferenced hd
      rw [isReferenced_iff] at hbefore ⊢
      -- whoever had the name is the one that is let go of
      rcases hbefore with ⟨n, hmem⟩ | hheld
      · have hne : n ≠ name := by
          rintro rfl
          exact hspare ((named?_of_mem h.sorted hmem).symm.trans hname).symm
        exact .inl ⟨n, List.mem_filter.mpr ⟨hmem, by simpa using hne⟩⟩
      · exact .inr hheld

/-- A scope is entered on a connection that is referred to already. -/
theorem Coherent.hold {s : Session World Handle} (h : Coherent s) {c : Nat}
    (hc : s.isReferenced c = true) : Coherent (s.hold c) where
  sorted := h.sorted
  opened d hd := by
    rw [isReferenced_iff] at hd
    rcases hd with hname | hheld | hslot
    · exact h.opened d (isReferenced_iff.mpr (.inl hname))
    · rcases List.mem_cons.mp hheld with rfl | hheld
      · exact h.opened d hc
      · exact h.opened d (isReferenced_iff.mpr (.inr (.inl hheld)))
    · exact h.opened d (isReferenced_iff.mpr (.inr (.inr hslot)))
  referenced d hd _ := by
    have hbefore := h.isReferenced hd
    rw [isReferenced_iff] at hbefore ⊢
    rcases hbefore with hname | hheld | hslot
    · exact .inl hname
    · exact .inr (.inl (List.mem_cons_of_mem c hheld))
    · exact .inr (.inr hslot)
  shared := h.shared

/-- Where a scope is left, its connection keeps another reference or is released. -/
theorem Coherent.unhold {s : Session World Handle} (h : Coherent s) :
    Coherent (s.unhold engine) := by
  unfold Session.unhold
  split
  · exact h
  · rename_i c rest hheld
    refine CoherentBut.letGo engine ⟨h.sorted, ?_, ?_, h.shared⟩
    · intro d hd
      apply h.opened d
      rw [isReferenced_iff] at hd ⊢
      rcases hd with hname | hrest | hslot
      · exact .inl hname
      · exact .inr (.inl (hheld ▸ List.mem_cons_of_mem c hrest))
      · exact .inr (.inr hslot)
    · intro d hd hspare
      have hbefore := h.isReferenced hd
      rw [isReferenced_iff] at hbefore ⊢
      -- whoever was used in the scope is the one that is let go of
      rcases hbefore with hname | hmem | hslot
      · exact .inl hname
      · rw [hheld] at hmem
        rcases List.mem_cons.mp hmem with rfl | hmem
        · exact absurd rfl hspare
        · exact .inr (.inl hmem)
      · exact .inr (.inr hslot)

/-! ### Registries -/

/-- A registry that gives up its connection spares it. -/
theorem Coherent.setSlot_none {s : Session World Handle} (h : Coherent s) (r : RegistryName) :
    CoherentBut (s.registry r).slot (s.setSlot r none) where
  sorted := h.sorted
  opened d hd := by
    rw [isReferenced_iff] at hd
    rcases hd with hname | hheld | ⟨n, hslot⟩
    · exact h.opened d (isReferenced_iff.mpr (.inl hname))
    · exact h.opened d (isReferenced_iff.mpr (.inr (.inl hheld)))
    · -- the slot just emptied refers to nothing
      have hne : n ≠ r := by
        rintro rfl
        rw [slot_setSlot_self] at hslot
        exact absurd hslot (by simp)
      rw [slot_setSlot_of_ne hne] at hslot
      exact h.opened d (isReferenced_of_slot hslot)
  referenced d hd hspare := by
    have hbefore := h.isReferenced hd
    rw [isReferenced_iff] at hbefore ⊢
    rcases hbefore with hname | hheld | ⟨n, hslot⟩
    · exact .inl hname
    · exact .inr (.inl hheld)
    · -- what it kept is spared, so this one is in the other slot
      have hne : n ≠ r := by
        rintro rfl
        exact hspare hslot
      rw [← slot_setSlot_of_ne hne none s] at hslot
      exact .inr (.inr ⟨n, hslot⟩)
  shared n d hn := by
    by_cases hnr : n = r
    · rw [hnr, slot_setSlot_self] at hn
      exact absurd hn (by simp)
    · rw [slot_setSlot_of_ne hnr] at hn
      exact h.shared n d hn

/-- Where a registry shuts down, the connection that it kept is released, so it is not left open
    without a reference. -/
theorem Coherent.shutdown {s : Session World Handle} (h : Coherent s) (r : RegistryName) :
    Coherent (s.shutdown engine r).1 := by
  unfold Session.shutdown
  split
  · exact h
  · rename_i c hslot
    have hspared := h.setSlot_none r
    rw [hslot] at hspared
    exact hspared.release engine

/-- A connection just opened is the one to be spared. -/
theorem Coherent.connect {s t : Session World Handle} (h : Coherent s) {ownership : Ownership}
    {options : Options} {result : Except Error Nat}
    (ht : s.connect engine ownership options = (t, result)) :
    (∃ e, result = .error e ∧ Coherent t) ∨
    (result = .ok s.connections.length ∧ s.connections.length < t.connections.length ∧
      CoherentBut (some s.connections.length) t ∧
      t.isShared s.connections.length = decide (ownership = .shared)) := by
  have hmoves := connect_moves engine ownership options s
  have hrefs := connect_references engine ownership options s
  rw [ht] at hmoves hrefs
  rcases connect_cases engine ownership options s with
    ⟨world, handle, _, heq⟩ | ⟨world, e, _, heq⟩
  · right
    rw [ht] at heq
    obtain ⟨rfl, rfl⟩ := Prod.mk.inj heq
    -- nothing refers to the new connection yet, and to the others what did before
    refine ⟨rfl, by simp, ?_, by simp [isShared]⟩
    refine ⟨h.sorted, ?_, ?_, ?_⟩
    · intro c hc
      rw [hrefs.isReferenced] at hc
      exact (h.opened c hc).trans_le hmoves.length_le
    · intro c hc hspare
      rw [hrefs.isReferenced]
      refine h.isReferenced ?_
      have hne : c ≠ s.connections.length := by
        rintro rfl
        exact hspare rfl
      obtain ⟨k, hk⟩ := isClosed_eq_false.mp hc
      rw [handleNumber?_append rfl, if_neg hne] at hk
      exact isClosed_eq_false.mpr ⟨k, hk⟩
    · intro r c hr
      rw [hmoves.isShared_eq (h.opened c (isReferenced_of_slot hr))]
      exact h.shared r c hr
  · left
    rw [ht] at heq
    obtain ⟨rfl, rfl⟩ := Prod.mk.inj heq
    exact ⟨e, rfl, h.of_sameReferences hmoves hrefs fun _ hc => hc⟩

/-- A connection that is opened under a name is referred to by that name. -/
theorem Coherent.bindResult_connect {s : Session World Handle} (h : Coherent s) (name : String)
    (options : Options) :
    Coherent (bindResult engine name (s.connect engine .owned options)).1 := by
  rcases ht : s.connect engine .owned options with ⟨t, result⟩
  rcases h.connect engine ht with ⟨e, rfl, hcoherent⟩ | ⟨rfl, hlt, hcoherent, _⟩
  · exact hcoherent
  · exact hcoherent.bind engine hlt name

/-- The connection opened for a registry is referred to by its slot. -/
theorem CoherentBut.setSlot_some {s : Session World Handle} {c : Nat}
    (h : CoherentBut (some c) s) (hc : c < s.connections.length) (hshared : s.isShared c = true)
    {r : RegistryName} (hslot : (s.registry r).slot = none) : Coherent (s.setSlot r (some c)) where
  sorted := h.sorted
  opened d hd := by
    rw [isReferenced_iff] at hd
    rcases hd with hname | hheld | ⟨n, hn⟩
    · exact h.opened d (isReferenced_iff.mpr (.inl hname))
    · exact h.opened d (isReferenced_iff.mpr (.inr (.inl hheld)))
    · by_cases hnr : n = r
      · rw [hnr, slot_setSlot_self] at hn
        exact Option.some.inj hn ▸ hc
      · rw [slot_setSlot_of_ne hnr] at hn
        exact h.opened d (isReferenced_of_slot hn)
  referenced d hd _ := by
    rw [isReferenced_iff]
    -- the slot is what refers to the connection spared so far
    by_cases hdc : d = c
    · exact .inr (.inr ⟨r, by rw [slot_setSlot_self, hdc]⟩)
    · have hbefore : s.isReferenced d = true :=
        h.referenced d hd fun heq => hdc (Option.some.inj heq).symm
      rcases isReferenced_iff.mp hbefore with hname | hheld | ⟨n, hn⟩
      · exact .inl hname
      · exact .inr (.inl hheld)
      · have hnr : n ≠ r := by
          rintro rfl
          rw [hslot] at hn
          exact absurd hn (by simp)
        exact .inr (.inr ⟨n, by rw [slot_setSlot_of_ne hnr, hn]⟩)
  shared n d hn := by
    by_cases hnr : n = r
    · rw [hnr, slot_setSlot_self] at hn
      exact Option.some.inj hn ▸ hshared
    · rw [slot_setSlot_of_ne hnr] at hn
      exact h.shared n d hn

/-- A connection that a registry opens is kept by the registry. -/
theorem Coherent.acquire {s : Session World Handle} (h : Coherent s) (r : RegistryName) :
    Coherent (s.acquire engine r).1 := by
  rcases acquire_cases engine r s with ⟨c, _, heq⟩ | ⟨t, c, hslot, ht, heq⟩ | ⟨t, e, _, ht, heq⟩
  · rw [heq]
    exact h
  · have hrefs := connect_references engine .shared (s.registry r).options s
    rw [ht] at hrefs
    rcases h.connect engine ht with ⟨e, he, _⟩ | ⟨hc, hlt, hcoherent, hshared⟩
    · exact absurd he (by simp)
    · obtain rfl : c = s.connections.length := by simpa using hc
      -- the slot was empty, so filling it takes no reference away
      have hempty : (t.registry r).slot = none := by rw [hrefs.registry, hslot]
      rw [heq]
      exact hcoherent.setSlot_some hlt hshared hempty
  · rcases h.connect engine ht with ⟨e', _, hcoherent⟩ | ⟨hc, _⟩
    · rw [heq]
      exact hcoherent
    · exact absurd hc (by simp)

/-! ### Statements -/

/-- A statement closes nothing and opens nothing, whether it goes well or not. -/
theorem isClosed_execute (c d : Nat) (statement : String) (params : List Value)
    (s : Session World Handle) :
    (s.execute engine c statement params).1.isClosed d = s.isClosed d := by
  rw [isClosed_eq, isClosed_eq]
  rcases execute_cases engine c statement params s with
    ⟨_, heq⟩ | ⟨number, handle, world, handle', _, hc, heq⟩
  · rw [heq]
    rfl
  · rw [heq]
    exact congrArg Option.isNone (handleNumber?_setHandle_some hc handle' d)

/-- A batch closes and opens nothing either. -/
theorem isClosed_executeBatch (c d : Nat) (sql : String) (s : Session World Handle) :
    (s.executeBatch engine c sql).1.isClosed d = s.isClosed d := by
  rw [isClosed_eq, isClosed_eq]
  rcases executeBatch_cases engine c sql s with
    ⟨_, heq⟩ | ⟨number, handle, world, handle', _, hc, heq⟩
  · rw [heq]
    rfl
  · rw [heq]
    exact congrArg Option.isNone (handleNumber?_setHandle_some hc handle' d)

end Operations

/-! ### Every change -/

/-- Every change that leaves scopes alone keeps a session coherent. -/
theorem QuietChange.coherent {s t : Session World Handle} (h : QuietChange engine s t)
    (hs : Coherent s) : Coherent t := by
  cases h with
  | connect name options => exact hs.bindResult_connect engine name options
  | bind name c hc => exact (hs.but (some c)).bind engine (hs.opened c hc) name
  | unbind name => exact hs.unbind engine name
  | execute c statement params =>
    refine hs.of_sameReferences (execute_moves engine c statement params s)
      (execute_references engine c statement params s) fun d hd => ?_
    rw [isClosed_execute] at hd
    exact hd
  | batch c sql =>
    refine hs.of_sameReferences (executeBatch_moves engine c sql s)
      (executeBatch_references engine c sql s) fun d hd => ?_
    rw [isClosed_executeBatch] at hd
    exact hd
  | acquire r => exact hs.acquire engine r
  | tell => exact hs.of_sameReferences (tell_moves engine s) ⟨rfl, rfl, rfl⟩ fun _ hd => hd

/-- Every change does, those that enter and leave scopes included. -/
theorem Change.coherent {s t : Session World Handle} (h : Change engine s t) (hs : Coherent s) :
    Coherent t := by
  cases h with
  | quiet _ h => exact h.coherent hs
  | hold c hc => exact hs.hold hc
  | unhold => exact hs.unhold engine
  | close c => exact hs.close engine c
  | shutdown r => exact hs.shutdown engine r

/-- So do changes one after the other. -/
theorem Changes.coherent {s t : Session World Handle} (h : Changes engine s t)
    (hs : Coherent s) : Coherent t := by
  induction h with
  | refl => exact hs
  | tail _ hchange ih => exact hchange.coherent ih

end SqlClient.Session
