import SqlClient.Proofs.Table.Conversion

namespace SqlClient

/-!
# Integers widened to doubles

An integer among doubles is widened to the double that holds it, if there is one.  Doubles have
53 bits, so the integers they hold are those of at most 53 bits, and these moved up by any
number of bits.

* `Binary64.IsShifted` — an integer of at most 53 bits, moved up.
* `Binary64.exists_holds_iff` — those are the integers that doubles hold.
* `exactFloat?_int_eq_none` — an integer is refused exactly if its conversion rounds.
* `integers_widen_exactly` — which integers are widened, and to what.
-/

namespace Binary64

/-- An integer of at most 53 bits, or the first one of 54 bits, moved up by some number of
    bits. -/
def IsShifted (i : Int) : Prop := ∃ (m : Int) (e : Nat), m.natAbs ≤ 2 ^ 53 ∧ i = m * 2 ^ e

/-- What is not moved up is short, and what is moved up is even. -/
private theorem IsShifted.short_or_even {i : Int} (h : IsShifted i) :
    i.natAbs ≤ 2 ^ 53 ∨ 2 ∣ i := by
  obtain ⟨m, e, hm, rfl⟩ := h
  cases e with
  | zero => exact .inl (by simpa using hm)
  | succ e => exact .inr ((dvd_pow_self 2 (Nat.succ_ne_zero e)).mul_left m)

/-- The magnitude has at most 53 bits before it is moved up, the first number of 54 bits being
    one of them moved up. -/
private theorem IsShifted.natAbs_eq {i : Int} (h : IsShifted i) :
    ∃ k e : Nat, k < 2 ^ 53 ∧ i.natAbs = k * 2 ^ e := by
  obtain ⟨m, e, hm, rfl⟩ := h
  have hpow : (2 ^ e : Int).natAbs = 2 ^ e := by
    rw [Int.natAbs_pow]
    rfl
  rw [Int.natAbs_mul, hpow]
  rcases hm.lt_or_eq with hlt | heq
  · exact ⟨m.natAbs, e, hlt, rfl⟩
  · refine ⟨2 ^ 52, e + 1, by decide, ?_⟩
    have hcarry : 2 ^ 53 = 2 ^ 52 * 2 := by decide
    rw [heq, hcarry, mul_assoc, ← pow_succ']

/-! ### Which integers doubles hold -/

/-- A double holds no other integers: what its scale moves is its significand. -/
theorem Holds.isShifted {x : Binary64} {i : Int} (h : x.Holds i) : IsShifted i := by
  have hmagnitude := h.magnitude
  have hbits := x.significand_lt
  rw [numerator, denominator] at hmagnitude
  rcases Int.le_total 0 x.scale with hup | hdown
  · -- the integer is the significand moved up, under the integer's own sign
    have hnone : (-x.scale).toNat = 0 := by omega
    rw [hnone, pow_zero, mul_one] at hmagnitude
    refine ⟨i.sign * x.significand, x.scale.toNat, ?_, ?_⟩
    · have hsign : i.sign.natAbs ≤ 1 := by
        rw [Int.natAbs_sign]
        split <;> omega
      rw [Int.natAbs_mul, Int.natAbs_natCast]
      exact (Nat.mul_le_mul_right _ hsign).trans (by omega)
    · calc i = i.sign * i.natAbs := (Int.sign_mul_natAbs i).symm
        _ = i.sign * (x.significand * 2 ^ x.scale.toNat : Nat) := by rw [hmagnitude]
        _ = i.sign * x.significand * 2 ^ x.scale.toNat := by push_cast; ring
  · -- the significand is the integer moved up, so the integer has no more bits
    have hnone : x.scale.toNat = 0 := by omega
    rw [hnone, pow_zero, mul_one] at hmagnitude
    have hle : i.natAbs ≤ i.natAbs * 2 ^ (-x.scale).toNat :=
      Nat.le_mul_of_pos_right _ (Nat.two_pow_pos _)
    exact ⟨i, 0, by omega, by simp⟩

/-- Rounding keeps such an integer, if it is not too large for doubles. -/
theorem IsShifted.holds_ofInt {i : Int} (h : IsShifted i) (hlog : i.natAbs.log2 < 1023) :
    (ofInt i).Holds i := by
  by_cases hi : i = 0
  · subst hi
    exact holds_zero
  · obtain ⟨k, e, hk, hmagnitude⟩ := h.natAbs_eq
    have hk0 : k ≠ 0 := by
      rintro rfl
      rw [zero_mul] at hmagnitude
      exact hi (Int.natAbs_eq_zero.mp hmagnitude)
    have hshort : k.log2 < 53 := (Nat.log2_lt hk0).mpr hk
    have hbits : i.natAbs.log2 = k.log2 + e := by rw [hmagnitude, log2_mul_two_pow hk0]
    obtain ⟨hlow, hhigh⟩ := leading_of_log2_le hk0 (by omega)
    refine holds_ofInt_of_mul_eq (e := k.log2 + e + 1022) hi hlow hhigh (by omega) ?_
    -- moving the leading one to its place is made up for by the scale
    have hmoved : e + (1074 - (k.log2 + e + 1022)) =
        52 - k.log2 + (k.log2 + e + 1022 - 1074) := by omega
    rw [hmagnitude, mul_assoc, mul_assoc, ← pow_add, ← pow_add, hmoved]

/-- **Held integers.** Doubles hold the integers of at most 53 bits, and these moved up. -/
theorem exists_holds_iff {i : Int} (hlog : i.natAbs.log2 < 1023) :
    (∃ x : Binary64, x.Holds i) ↔ IsShifted i := by
  constructor
  · rintro ⟨x, hx⟩
    exact hx.isShifted
  · intro h
    exact ⟨_, h.holds_ofInt hlog⟩

end Binary64

/-! ### Which integers are widened -/

theorem exists_exactFloat?_int (i : Int64) :
    (∃ x, (Value.int i).exactFloat? = some x) ↔ Binary64.IsShifted i.toInt := by
  simp only [exactFloat?_int, Binary64.exists_holds_iff (log2_toInt_lt i)]

/-- An integer is refused exactly if the double nearest to it is another number. -/
theorem exactFloat?_int_eq_none (i : Int64) :
    (Value.int i).exactFloat? = none ↔ ¬ (Binary64.ofInt i.toInt).Holds i.toInt := by
  rw [← exactFloat?_int, Option.eq_none_iff_forall_ne_some]
  constructor
  · intro h
    exact h _
  · intro h x hx
    obtain rfl := ((exactFloat?_int i x).mp hx).eq_ofInt
    exact h hx

/-- **Widening.** An integer of 64 bits is widened exactly if it is one of at most 53 bits, or
    the first one of 54 bits, moved up.  It is widened to the double that holds it, so different
    integers are widened to different doubles.  Integers up to `2 ^ 53` are widened, negative
    ones likewise, and so is the least of all; the greatest is not, and no other integer that
    conversion would round. -/
theorem integers_widen_exactly (i : Int64) :
    ((∃ x, (Value.int i).exactFloat? = some x) ↔
      ∃ (m : Int) (e : Nat), m.natAbs ≤ 2 ^ 53 ∧ i.toInt = m * 2 ^ e) ∧
    (∀ x, (Value.int i).exactFloat? = some x ↔ x.Holds i.toInt) ∧
    (∀ (j : Int64) (x : Binary64), (Value.int i).exactFloat? = some x →
      (Value.int j).exactFloat? = some x → i = j) ∧
    (i.toInt.natAbs ≤ 2 ^ 53 ∨ i = Int64.minValue → ∃ x, (Value.int i).exactFloat? = some x) ∧
    (i = Int64.maxValue ∨ ¬ (Binary64.ofInt i.toInt).Holds i.toInt →
      (Value.int i).exactFloat? = none) := by
  refine ⟨exists_exactFloat?_int i, exactFloat?_int i, ?_, ?_, ?_⟩
  · intro j x hi hj
    have hi' : x.toInt = i.toInt := ((exactFloat?_int i x).mp hi).toInt_eq
    have hj' : x.toInt = j.toInt := ((exactFloat?_int j x).mp hj).toInt_eq
    exact Int64.toInt_inj.mp (hi'.symm.trans hj')
  · intro h
    rw [exists_exactFloat?_int]
    rcases h with hshort | rfl
    · exact ⟨i.toInt, 0, hshort, by simp⟩
    · exact ⟨-1, 63, by decide, by decide⟩
  · rintro (rfl | hround)
    · rw [exactFloat?_int_eq_none]
      -- the greatest integer is odd, and has 63 bits
      intro hheld
      exact absurd hheld.isShifted.short_or_even (by decide)
    · exact (exactFloat?_int_eq_none i).mpr hround

end SqlClient
