import SqlClient.Proofs.Session.Coherence

namespace SqlClient.Session

/-!
# Connections nothing refers to

A reference is taken from another one, or from a connection just opened.  So a connection
that nothing refers to any more is never found again.

* `QuietChange.isReferenced`, `Change.isReferenced` — no change finds one again.
* `Changes.isReferenced`, `Changes.forgotten` — nor does any chain of changes.
-/

variable {World Handle : Type} {engine : Engine World Handle}

/-- With a new name, only its connection may be referred to that was not before. -/
theorem isReferenced_of_insertName {s : Session World Handle} (hs : NamesSorted s.names)
    {name : String} {c d : Nat}
    (h : { s with names := insertName name d s.names }.isReferenced c = true) :
    c = d ∨ s.isReferenced c = true := by
  rcases isReferenced_iff.mp h with ⟨n, hmem⟩ | hrest
  · rcases (mem_insertName hs (n, c)).mp hmem with heq | ⟨_, hmem⟩
    · exact .inl (Prod.mk.inj heq).2
    · exact .inr (isReferenced_iff.mpr (.inl ⟨n, hmem⟩))
  · exact .inr (isReferenced_iff.mpr (.inr hrest))

theorem isReferenced_of_bind {s : Session World Handle} (hs : NamesSorted s.names)
    {name : String} {c d : Nat} (h : (s.bind engine name d).isReferenced c = true) :
    c = d ∨ s.isReferenced c = true := by
  rw [(bind_references engine name d s).isReferenced] at h
  exact isReferenced_of_insertName hs h

/-- A slot that is filled or emptied adds at most its connection. -/
theorem isReferenced_of_setSlot {s : Session World Handle} {r : RegistryName}
    {slot : Option Nat} {c : Nat} (h : (s.setSlot r slot).isReferenced c = true) :
    slot = some c ∨ s.isReferenced c = true := by
  rcases isReferenced_iff.mp h with hname | hheld | ⟨n, hn⟩
  · exact .inr (isReferenced_iff.mpr (.inl hname))
  · exact .inr (isReferenced_iff.mpr (.inr (.inl hheld)))
  · by_cases hnr : n = r
    · rw [hnr, slot_setSlot_self] at hn
      exact .inl hn
    · rw [slot_setSlot_of_ne hnr] at hn
      exact .inr (isReferenced_of_slot hn)

/-- A quiet change refers to no connection that was forgotten. -/
theorem QuietChange.isReferenced {s t : Session World Handle} (h : QuietChange engine s t)
    (hs : Coherent s) {c : Nat} (hc : c < s.connections.length)
    (ht : t.isReferenced c = true) : s.isReferenced c = true := by
  cases h with
  | connect name options =>
    have hrefs := connect_references engine .owned options s
    rcases heq : s.connect engine .owned options with ⟨u, result⟩
    rw [heq] at ht hrefs
    -- a connection that was there before is not the one just opened
    rcases hs.connect engine heq with ⟨e, rfl, _⟩ | ⟨rfl, _, hu, _⟩
    · exact (hrefs.isReferenced c).symm.trans ht
    · rcases isReferenced_of_bind hu.sorted ht with hlast | href
      · exact absurd hlast hc.ne
      · exact (hrefs.isReferenced c).symm.trans href
  | bind name d hd =>
    rcases isReferenced_of_bind hs.sorted ht with rfl | href
    · exact hd
    · exact href
  | unbind name =>
    rw [(unbind_references engine name s).isReferenced] at ht
    rw [isReferenced_iff] at ht ⊢
    rcases ht with ⟨n, hmem⟩ | hrest
    · exact .inl ⟨n, (List.mem_filter.mp hmem).1⟩
    · exact .inr hrest
  | execute d statement params =>
    exact ((execute_references engine d statement params s).isReferenced c).symm.trans ht
  | batch d sql => exact ((executeBatch_references engine d sql s).isReferenced c).symm.trans ht
  | acquire r =>
    rcases acquire_references engine r s with hrefs | hrefs
    · exact (hrefs.isReferenced c).symm.trans ht
    · rw [hrefs.isReferenced] at ht
      -- nor is it the one that fills the slot
      rcases isReferenced_of_setSlot ht with hlast | href
      · exact absurd (Option.some.inj hlast).symm hc.ne
      · exact href
  | tell => exact ht

/-- No change brings back a reference to a connection that nothing refers to. -/
theorem Change.isReferenced {s t : Session World Handle} (h : Change engine s t)
    (hs : Coherent s) {c : Nat} (hc : c < s.connections.length)
    (ht : t.isReferenced c = true) : s.isReferenced c = true := by
  cases h with
  | quiet _ h => exact h.isReferenced hs hc ht
  | hold d hd =>
    rw [isReferenced_iff] at ht
    rcases ht with hname | hheld | hslot
    -- a scope is entered only with a connection that is referred to
    · exact isReferenced_iff.mpr (.inl hname)
    · rcases List.mem_cons.mp hheld with rfl | hheld
      · exact hd
      · exact isReferenced_iff.mpr (.inr (.inl hheld))
    · exact isReferenced_iff.mpr (.inr (.inr hslot))
  | unhold =>
    rw [(unhold_references engine s).isReferenced] at ht
    rw [isReferenced_iff] at ht ⊢
    rcases ht with hname | hheld | hslot
    · exact .inl hname
    · exact .inr (.inl (List.mem_of_mem_tail hheld))
    · exact .inr (.inr hslot)
  | close d => exact ((close_references engine d s).isReferenced c).symm.trans ht
  | shutdown r =>
    rw [(shutdown_references engine r s).isReferenced] at ht
    rcases isReferenced_of_setSlot ht with hnone | href
    · exact absurd hnone (by simp)
    · exact href

/-- A connection nothing refers to is never found again. -/
theorem Changes.isReferenced {s t : Session World Handle} (h : Changes engine s t)
    (hs : Coherent s) {c : Nat} (hc : c < s.connections.length)
    (ht : t.isReferenced c = true) : s.isReferenced c = true := by
  induction h with
  | refl => exact ht
  | tail hchanges hchange ih =>
    have hu := Changes.coherent hchanges hs
    have hcu := hc.trans_le (Changes.moves hchanges).length_le
    exact ih (hchange.isReferenced hu hcu ht)

/-- What the changes of a step forget stays forgotten. -/
theorem Changes.forgotten {s t : Session World Handle} (h : Changes engine s t)
    (hs : Coherent s) {c : Nat} (hc : c < s.connections.length)
    (hforgotten : s.isReferenced c = false) : t.isReferenced c = false := by
  rw [← Bool.not_eq_true] at hforgotten ⊢
  exact mt (h.isReferenced hs hc) hforgotten

end SqlClient.Session
