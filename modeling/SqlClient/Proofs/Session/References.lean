import Mathlib.Data.String.Basic
import SqlClient.Proofs.Session.Moves

namespace SqlClient.Session

/-!
# References to connections

Names are kept in order, each at most once, so a name stands for one connection.  A
connection is referred to by names, by the scopes it is used in, and by the slots of the
registries.

* `insertName_sorted`, `mem_insertName` — a name put in its place.
* `isReferenced_iff` — the three ways to refer to a connection.
* `SameReferences` — sessions that refer to the same connections; the operations change
  references as told by `bind_references`, …, `acquire_references`.
-/

variable {World Handle : Type}

/-! ### Names in order -/

/-- Names in strictly increasing order. -/
abbrev NamesSorted (names : List (String × Nat)) : Prop :=
  names.Pairwise fun a b => a.1 < b.1

/-- Where no name in the list is the new one, the new one is put in front. -/
theorem mem_cons_of_forall_ne {name : String} {c : Nat} {names : List (String × Nat)}
    (h : ∀ q ∈ names, q.1 ≠ name) (p : String × Nat) :
    p ∈ (name, c) :: names ↔ p = (name, c) ∨ (p.1 ≠ name ∧ p ∈ names) := by
  rw [List.mem_cons]
  exact or_congr_right ⟨fun hp => ⟨h p hp, hp⟩, fun hp => hp.2⟩

/-- What is put under a name takes the place of what stood under it, and everything else stays. -/
theorem mem_insertName {name : String} {c : Nat} {names : List (String × Nat)}
    (h : NamesSorted names) (p : String × Nat) :
    p ∈ insertName name c names ↔ p = (name, c) ∨ (p.1 ≠ name ∧ p ∈ names) := by
  induction names with
  | nil => simp [insertName]
  | cons q rest ih =>
    obtain ⟨n, i⟩ := q
    obtain ⟨hfirst, hrest⟩ := List.pairwise_cons.mp h
    unfold insertName
    split
    · rename_i hlt
      -- every name in the list comes after the new one
      have hother : ∀ q ∈ (n, i) :: rest, q.1 ≠ name := by
        intro q hq
        rcases List.mem_cons.mp hq with rfl | hq
        · exact hlt.ne'
        · exact (hlt.trans (hfirst q hq)).ne'
      exact mem_cons_of_forall_ne hother p
    · split
      · rename_i hnlt heq
        subst heq
        -- the entry in front is replaced, and no other has the name
        have hother : ∀ q ∈ rest, q.1 ≠ n := fun q hq => (hfirst q hq).ne'
        rw [mem_cons_of_forall_ne hother, List.mem_cons]
        refine or_congr_right (and_congr_right fun hne => ?_)
        exact (or_iff_right fun hp => hne (congrArg Prod.fst hp)).symm
      · rename_i hnlt hne
        -- the entry in front stays, and its name is another one
        rw [List.mem_cons, ih hrest, List.mem_cons]
        constructor
        · rintro (rfl | rfl | ⟨hp, hmem⟩)
          · exact .inr ⟨hne, .inl rfl⟩
          · exact .inl rfl
          · exact .inr ⟨hp, .inr hmem⟩
        · rintro (rfl | ⟨hp, rfl | hmem⟩)
          · exact .inr (.inl rfl)
          · exact .inl rfl
          · exact .inr (.inr ⟨hp, hmem⟩)

/-- Names stay in order where one is put among them, so a name is in the list at most once. -/
theorem insertName_sorted {names : List (String × Nat)} (h : NamesSorted names) (name : String)
    (c : Nat) : NamesSorted (insertName name c names) := by
  induction names with
  | nil => simp [insertName, NamesSorted]
  | cons q rest ih =>
    obtain ⟨n, i⟩ := q
    obtain ⟨hfirst, hrest⟩ := List.pairwise_cons.mp h
    unfold insertName
    split
    · rename_i hlt
      refine List.pairwise_cons.mpr ⟨?_, h⟩
      intro q hq
      rcases List.mem_cons.mp hq with rfl | hq
      · exact hlt
      · exact hlt.trans (hfirst q hq)
    · split
      · rename_i heq
        subst heq
        exact List.pairwise_cons.mpr ⟨hfirst, hrest⟩
      · rename_i hnlt hne
        -- the name goes behind the entry in front, which is smaller
        refine List.pairwise_cons.mpr ⟨?_, ih hrest⟩
        intro q hq
        rcases (mem_insertName hrest q).mp hq with rfl | ⟨_, hq⟩
        · exact lt_of_le_of_ne (not_lt.mp hnlt) hne
        · exact hfirst q hq

/-- A name that stands for a connection is in the list, together with it. -/
theorem mem_of_named? {s : Session World Handle} {name : String} {c : Nat}
    (h : s.named? name = some c) : (name, c) ∈ s.names := by
  obtain ⟨⟨n, d⟩, hfind, rfl⟩ := Option.map_eq_some_iff.mp h
  have hname : n = name := by simpa using List.find?_some hfind
  subst hname
  exact List.mem_of_find?_eq_some hfind

/-- A name that stands for nothing is not in the list. -/
theorem ne_of_named?_eq_none {s : Session World Handle} {name : String}
    (h : s.named? name = none) : ∀ p ∈ s.names, p.1 ≠ name := by
  rw [named?, Option.map_eq_none_iff, List.find?_eq_none] at h
  intro p hp
  simpa using h p hp

/-- In a list in order no name stands twice, so it stands for one connection. -/
private theorem eq_of_mem_of_mem {names : List (String × Nat)} (h : NamesSorted names)
    {name : String}
    {c d : Nat} (hc : (name, c) ∈ names) (hd : (name, d) ∈ names) : c = d := by
  induction names with
  | nil => simp at hc
  | cons q rest ih =>
    obtain ⟨hfirst, hrest⟩ := List.pairwise_cons.mp h
    -- an entry before another one of the same name would be smaller than itself
    rcases List.mem_cons.mp hc with rfl | hcrest
    · rcases List.mem_cons.mp hd with heq | hdrest
      · exact (Prod.mk.inj heq).2.symm
      · exact absurd (hfirst (name, d) hdrest) (lt_irrefl name)
    · rcases List.mem_cons.mp hd with rfl | hdrest
      · exact absurd (hfirst (name, c) hcrest) (lt_irrefl name)
      · exact ih hrest hcrest hdrest

/-- In order, a name stands for the connection listed with it. -/
theorem named?_of_mem {s : Session World Handle} (h : NamesSorted s.names) {name : String}
    {c : Nat} (hmem : (name, c) ∈ s.names) : s.named? name = some c := by
  cases hname : s.named? name with
  | none => exact absurd rfl (ne_of_named?_eq_none hname (name, c) hmem)
  | some d => rw [eq_of_mem_of_mem h (mem_of_named? hname) hmem]

/-! ### Referring to a connection -/

/-- A connection is referred to by a name, by a scope, or by the slot of a registry. -/
theorem isReferenced_iff {s : Session World Handle} {c : Nat} :
    s.isReferenced c = true ↔
      (∃ name, (name, c) ∈ s.names) ∨ c ∈ s.held ∨ ∃ r, (s.registry r).slot = some c := by
  have hnames : (∃ p ∈ s.names, p.2 = c) ↔ ∃ name, (name, c) ∈ s.names := by
    constructor
    · rintro ⟨⟨name, d⟩, hmem, rfl⟩
      exact ⟨name, hmem⟩
    · rintro ⟨name, hmem⟩
      exact ⟨(name, c), hmem, rfl⟩
  have hslots : (∃ r, (s.registry r).slot = some c) ↔
      (s.registry .session).slot = some c ∨ (s.registry .process).slot = some c := by
    constructor
    · rintro ⟨r, hr⟩
      cases r with
      | session => exact .inl hr
      | process => exact .inr hr
    · rintro (hr | hr)
      · exact ⟨.session, hr⟩
      · exact ⟨.process, hr⟩
  rw [hslots, ← hnames]
  simp only [isReferenced, Bool.or_eq_true, List.any_eq_true, decide_eq_true_eq,
    List.contains_iff_mem, or_assoc]

/-- A connection with a name is referred to. -/
theorem isReferenced_of_named? {s : Session World Handle} {name : String} {c : Nat}
    (h : s.named? name = some c) : s.isReferenced c = true :=
  isReferenced_iff.mpr (.inl ⟨name, mem_of_named? h⟩)

/-- A connection that a registry keeps is referred to. -/
theorem isReferenced_of_slot {s : Session World Handle} {r : RegistryName} {c : Nat}
    (h : (s.registry r).slot = some c) : s.isReferenced c = true :=
  isReferenced_iff.mpr (.inr (.inr ⟨r, h⟩))

/-- A connection that a scope is entered on is referred to until the scope is left. -/
theorem isReferenced_hold (c : Nat) (s : Session World Handle) :
    (s.hold c).isReferenced c = true :=
  isReferenced_iff.mpr (.inr (.inl List.mem_cons_self))

/-- A registry keeps what was put in its slot. -/
theorem slot_setSlot_self (r : RegistryName) (slot : Option Nat) (s : Session World Handle) :
    ((s.setSlot r slot).registry r).slot = slot := by
  simp [setSlot]

/-- What one registry keeps makes no difference to the slots of the others. -/
theorem slot_setSlot_of_ne {r n : RegistryName} (h : n ≠ r) (slot : Option Nat)
    (s : Session World Handle) : ((s.setSlot r slot).registry n).slot = (s.registry n).slot := by
  simp [setSlot, h]

/-! ### What happens to references -/

/-- The second session refers to the same connections as the first, by the same means. -/
structure SameReferences (s t : Session World Handle) : Prop where
  names : t.names = s.names
  held : t.held = s.held
  registry : t.registry = s.registry

/-- A session has the references it has. -/
theorem SameReferences.refl (s : Session World Handle) : SameReferences s s := ⟨rfl, rfl, rfl⟩

/-- Sessions with the same names, scopes and slots refer to the same connections. -/
theorem SameReferences.isReferenced {s t : Session World Handle} (h : SameReferences s t)
    (c : Nat) : t.isReferenced c = s.isReferenced c := by
  simp only [Session.isReferenced, h.names, h.held, h.registry]

section Operations

variable (engine : Engine World Handle)

/-- A connection that was just opened is not referred to yet; that is left to whoever has asked
    for it. -/
theorem connect_references (ownership : Ownership) (options : Options)
    (s : Session World Handle) : SameReferences s (s.connect engine ownership options).1 := by
  rcases connect_cases engine ownership options s with ⟨_, _, _, heq⟩ | ⟨_, _, _, heq⟩
  · rw [heq]
    exact ⟨rfl, rfl, rfl⟩
  · rw [heq]
    exact ⟨rfl, rfl, rfl⟩

/-- Releasing a connection leaves all that refers to it, so a closed connection can still be
    asked. -/
theorem release_references (c : Nat) (s : Session World Handle) :
    SameReferences s (s.release engine c).1 := by
  rcases release_cases engine c s with ⟨_, heq⟩ | ⟨_, _, _, _, _, heq⟩
  · rw [heq]
    exact .refl s
  · rw [heq]
    exact ⟨rfl, rfl, rfl⟩

/-- Closing by hand leaves all references, whether it releases anything or not. -/
theorem close_references (c : Nat) (s : Session World Handle) :
    SameReferences s (s.close engine c).1 := by
  unfold close
  split
  · exact .refl s
  · exact release_references engine c s

/-- The references are gone before a connection is let go, so letting it go changes none. -/
theorem letGo_references (c : Nat) (s : Session World Handle) :
    SameReferences s (s.letGo engine c) := by
  unfold letGo
  split
  · exact .refl s
  · exact release_references engine c s

/-- A statement changes no references, be it run, refused, or broken down over. -/
theorem execute_references (c : Nat) (statement : String) (params : List Value)
    (s : Session World Handle) :
    SameReferences s (s.execute engine c statement params).1 := by
  rcases execute_cases engine c statement params s with ⟨_, heq⟩ | ⟨_, _, _, _, _, _, heq⟩
  · rw [heq]
    exact ⟨rfl, rfl, rfl⟩
  · rw [heq]
    exact ⟨rfl, rfl, rfl⟩

/-- A batch changes none either. -/
theorem executeBatch_references (c : Nat) (sql : String) (s : Session World Handle) :
    SameReferences s (s.executeBatch engine c sql).1 := by
  rcases executeBatch_cases engine c sql s with ⟨_, heq⟩ | ⟨_, _, _, _, _, _, heq⟩
  · rw [heq]
    exact ⟨rfl, rfl, rfl⟩
  · rw [heq]
    exact ⟨rfl, rfl, rfl⟩

/-- Binding a name puts it among the others; whatever had the name before is not referred to by it
    any more. -/
theorem bind_references (name : String) (c : Nat) (s : Session World Handle) :
    SameReferences { s with names := insertName name c s.names } (s.bind engine name c) := by
  unfold bind
  cases s.named? name with
  | none => exact .refl _
  | some old => exact letGo_references engine old _

/-- Scopes are not concerned where the result of opening a connection is bound to a name. -/
theorem bindResult_held (name : String) (p : Session World Handle × Except Error Nat) :
    (bindResult engine name p).1.held = p.1.held := by
  obtain ⟨s, e | c⟩ := p
  · rfl
  · exact (bind_references engine name c s).held

/-- Registries are not concerned either, even if the connection came from one. -/
theorem bindResult_registry (name : String) (p : Session World Handle × Except Error Nat) :
    (bindResult engine name p).1.registry = p.1.registry := by
  obtain ⟨s, e | c⟩ := p
  · rfl
  · exact (bind_references engine name c s).registry

/-- Giving a name up takes it out of the list, and changes no other reference. -/
theorem unbind_references (name : String) (s : Session World Handle) :
    SameReferences { s with names := s.names.filter (·.1 ≠ name) } (s.unbind engine name) := by
  unfold unbind
  cases hname : s.named? name with
  | none =>
    refine ⟨?_, rfl, rfl⟩
    show s.names = s.names.filter _
    -- no entry has the name, so none is dropped
    rw [List.filter_eq_self.mpr]
    intro p hp
    simpa using ne_of_named?_eq_none hname p hp
  | some c => exact letGo_references engine c _

/-- Leaving a scope gives up the reference of the innermost one. -/
theorem unhold_references (s : Session World Handle) :
    SameReferences { s with held := s.held.tail } (s.unhold engine) := by
  unfold unhold
  split
  · rename_i hheld
    exact ⟨rfl, by rw [hheld]; rfl, rfl⟩
  · rename_i c rest hheld
    have hrest := letGo_references engine c { s with held := rest }
    refine ⟨hrest.names, ?_, hrest.registry⟩
    rw [hheld]
    exact hrest.held

/-- Emptying the slot of a registry that keeps nothing leaves all registries as they are. -/
theorem setSlot_none_of_slot_eq_none {r : RegistryName} {s : Session World Handle}
    (h : (s.registry r).slot = none) : (s.setSlot r none).registry = s.registry := by
  funext n
  by_cases hn : n = r
  · subst hn
    simp only [setSlot, if_pos, ← h]
  · simp only [setSlot, if_neg hn]

/-- Shutting a registry down empties its slot; names that its connection has stay. -/
theorem shutdown_references (r : RegistryName) (s : Session World Handle) :
    SameReferences (s.setSlot r none) (s.shutdown engine r).1 := by
  unfold shutdown
  split
  · rename_i hslot
    exact ⟨rfl, rfl, (setSlot_none_of_slot_eq_none hslot).symm⟩
  · rename_i c _
    exact release_references engine c _

/-- Acquiring fills the slot, or leaves all references as they are. -/
theorem acquire_references (r : RegistryName) (s : Session World Handle) :
    SameReferences s (s.acquire engine r).1 ∨
      SameReferences (s.setSlot r (some s.connections.length)) (s.acquire engine r).1 := by
  have hconnect := connect_references engine .shared (s.registry r).options s
  rcases acquire_cases engine r s with ⟨c, _, heq⟩ | ⟨t, c, _, ht, heq⟩ | ⟨t, e, _, ht, heq⟩
  · rw [heq]
    exact .inl (.refl s)
  · rw [heq]
    rw [ht] at hconnect
    obtain ⟨rfl, -⟩ := connect_eq_ok engine ht
    have hregistry : t.registry = s.registry := hconnect.registry
    exact .inr ⟨hconnect.names, hconnect.held, by simp only [setSlot, hregistry]⟩
  · rw [heq]
    rw [ht] at hconnect
    exact .inl hconnect

end Operations

end SqlClient.Session
