import Mathlib.Data.Nat.Log
import Mathlib.Tactic.Ring
import SqlClient.Binary64

namespace SqlClient.Binary64

/-!
# Integers held by doubles

An integer of up to 64 bits is rounded to a double by keeping its 53 leading bits.  When
the bits below them are zero the double holds the integer, and no other double does.

* `Holds` — a double is an integer, with nothing lost.
* `ofCode_normal` — significand and scale of a number put together from them.
* `ofInt_of_log2_le`, `ofInt_of_lt_log2` — short integers are kept, long ones rounded.
* `holds_iff` — the integers that come back from rounding are the ones that are held.
-/

/-- The double is the integer, with nothing lost; zero is the positive one. -/
structure Holds (x : Binary64) (i : Int) : Prop where
  finite : x.isFinite = true
  negative : x.negative = decide (i < 0)
  magnitude : x.numerator = i.natAbs * x.denominator

private theorem denominator_pos (x : Binary64) : 0 < x.denominator := Nat.two_pow_pos _

/-- A double that holds an integer is truncated to that same integer, as there is nothing behind
    its point. -/
theorem Holds.toInt_eq {x : Binary64} {i : Int} (h : x.Holds i) : x.toInt = i := by
  have hmagnitude : (x.numerator : Int) / x.denominator = i.natAbs := by
    rw [h.magnitude, Nat.cast_mul]
    exact Int.mul_ediv_cancel _ (by exact_mod_cast x.denominator_pos.ne')
  simp only [toInt, hmagnitude, h.negative, decide_eq_true_eq]
  split <;> omega

/-! ### Numbers from their parts -/

/-- The significand has at most 53 bits, the leading one of a normal number among them. -/
theorem significand_lt (x : Binary64) : x.significand < 2 ^ 53 := by
  have hfraction : x.fraction < 2 ^ 52 := Nat.mod_lt _ (by decide)
  unfold significand
  split <;> omega

/-- A number put together from a significand with a leading one and an exponent field. -/
theorem ofCode_normal (negative : Bool) {e q : Nat} (hlow : 2 ^ 52 ≤ q) (hhigh : q < 2 ^ 53)
    (he : e < 2046) :
    (ofCode negative (e * 2 ^ 52 + q)).isFinite = true ∧
    (ofCode negative (e * 2 ^ 52 + q)).significand = q ∧
    (ofCode negative (e * 2 ^ 52 + q)).scale = e - 1074 := by
  have hcode : (ofCode negative (e * 2 ^ 52 + q)).code.val = e * 2 ^ 52 + q := by
    simp only [ofCode, infinityCode]
    omega
  -- the leading one of `q` is not stored, but carried into the field
  have hfield : (ofCode negative (e * 2 ^ 52 + q)).exponentField = e + 1 := by
    rw [exponentField, hcode]
    omega
  have hfraction : (ofCode negative (e * 2 ^ 52 + q)).fraction = q - 2 ^ 52 := by
    rw [fraction, hcode]
    omega
  refine ⟨?_, ?_, ?_⟩
  · simp only [isFinite, hcode, infinityCode, decide_eq_true_eq]
    omega
  · rw [significand, hfield, hfraction, if_neg (by omega)]
    omega
  · rw [scale, hfield]
    omega

/-- A finite number with an exponent field is put together from its parts. -/
private theorem eq_ofCode_of_finite {x : Binary64} (hfinite : x.isFinite = true)
    (hfield : x.exponentField ≠ 0) :
    x = ofCode x.negative ((x.exponentField - 1) * 2 ^ 52 + x.significand) := by
  have hparts : (x.exponentField - 1) * 2 ^ 52 + x.significand = x.code.val := by
    have hdiv : x.code.val / 2 ^ 52 ≠ 0 := hfield
    -- the leading one that is not stored carries into the field, which is one too large
    rw [significand, if_neg hfield]
    simp only [exponentField, fraction]
    omega
  have hbelow : x.code.val < infinityCode := by simpa [isFinite] using hfinite
  rw [hparts]
  apply congrArg (mk x.negative)
  exact Fin.ext (Nat.min_eq_left hbelow.le).symm

/-! ### Rounding an integer -/

/-- The binade of a whole number is the place of its leading bit. -/
theorem binade_one {n : Nat} (hn : n ≠ 0) : binade n 1 = n.log2 := by
  have hlog : Nat.log2 1 = 0 := by decide
  have hle : 2 ^ n.log2 ≤ n := Nat.log2_self_le hn
  simp [binade, hlog, hle]

private theorem roundHalfEven_one (n : Nat) : roundHalfEven n 1 = n := by
  simp [roundHalfEven, Nat.mod_one]

/-- An integer of at most 53 bits is kept as it is: its significand has room for all of them. -/
private theorem ofRatio_of_log2_le (negative : Bool) {n : Nat} (hn : n ≠ 0) (hlog : n.log2 ≤ 52) :
    ofRatio negative n 1 =
      ofCode negative ((n.log2 + 1022) * 2 ^ 52 + n * 2 ^ (52 - n.log2)) := by
  have hscale : max (-1074) ((n.log2 : Int) - 52) = n.log2 - 52 := by omega
  have hup : (-((n.log2 : Int) - 52)).toNat = 52 - n.log2 := by omega
  have hdown : ((n.log2 : Int) - 52).toNat = 0 := by omega
  have hfield : ((n.log2 : Int) - 52 + 1074).toNat = n.log2 + 1022 := by omega
  simp only [ofRatio, hn, if_false, binade_one hn, hscale, hup, hdown, hfield, pow_zero,
    mul_one, roundHalfEven_one]

/-- A longer one is rounded where its 53 leading bits end. -/
theorem ofRatio_of_lt_log2 (negative : Bool) {n : Nat} (hlog : 52 < n.log2) :
    ofRatio negative n 1 =
      ofCode negative
        ((n.log2 + 1022) * 2 ^ 52 + roundHalfEven n (2 ^ (n.log2 - 52))) := by
  have hn : n ≠ 0 := by
    rintro rfl
    exact absurd hlog (by decide)
  have hscale : max (-1074) ((n.log2 : Int) - 52) = n.log2 - 52 := by omega
  have hup : (-((n.log2 : Int) - 52)).toNat = 0 := by omega
  have hdown : ((n.log2 : Int) - 52).toNat = n.log2 - 52 := by omega
  have hfield : ((n.log2 : Int) - 52 + 1074).toNat = n.log2 + 1022 := by omega
  simp only [ofRatio, hn, if_false, binade_one hn, hscale, hup, hdown, hfield, pow_zero,
    mul_one, one_mul]

/-- A quotient is rounded to its whole part, or to the number after that. -/
theorem roundHalfEven_cases (num den : Nat) :
    roundHalfEven num den = num / den ∨ roundHalfEven num den = num / den + 1 := by
  unfold roundHalfEven
  grind

/-- A quotient without a remainder is not rounded; there is nothing to decide between. -/
theorem roundHalfEven_mul {den : Nat} (hden : 0 < den) (q : Nat) :
    roundHalfEven (q * den) den = q := by
  simp [roundHalfEven, Nat.mul_mod_left, Nat.mul_div_cancel _ hden, hden]

/-! ### Which integers are held -/

/-- Doubling a number moves its leading bit by one place. -/
theorem log2_mul_two_pow {n : Nat} (hn : n ≠ 0) (k : Nat) :
    (n * 2 ^ k).log2 = n.log2 + k := by
  have hk : 0 < 2 ^ k := Nat.two_pow_pos k
  rw [Nat.log2_eq_iff (Nat.mul_ne_zero hn hk.ne')]
  constructor
  · rw [pow_add]
    exact Nat.mul_le_mul_right _ (Nat.log2_self_le hn)
  · rw [add_right_comm, pow_add]
    exact Nat.mul_lt_mul_of_pos_right Nat.lt_log2_self hk

/-- The exponent is settled by the integer and the significand it is held with. -/
private theorem log2_of_mul_eq {n q e : Nat} (hn : n ≠ 0) (hlow : 2 ^ 52 ≤ q) (hhigh : q < 2 ^ 53)
    (h : n * 2 ^ (1074 - e) = q * 2 ^ (e - 1074)) : e = n.log2 + 1022 := by
  rcases Nat.lt_or_ge e 1074 with hlt | hge
  · -- a fraction below one is cut off: the integer has fewer bits than its significand
    have hzero : e - 1074 = 0 := by omega
    rw [hzero, pow_zero, mul_one] at h
    have hlog : n.log2 + (1074 - e) = 52 := by
      rw [← log2_mul_two_pow hn, h]
      exact (Nat.log2_eq_iff (by omega)).mpr ⟨hlow, hhigh⟩
    omega
  · have hzero : 1074 - e = 0 := by omega
    rw [hzero, pow_zero, mul_one] at h
    have hlog : n.log2 = 52 + (e - 1074) := by
      rw [h, log2_mul_two_pow (by omega)]
      congr 1
      exact (Nat.log2_eq_iff (by omega)).mpr ⟨hlow, hhigh⟩
    omega

/-- Rounding finds the double that holds an integer. -/
theorem ofRatio_of_mul_eq (negative : Bool) {n q e : Nat} (hn : n ≠ 0) (hlow : 2 ^ 52 ≤ q)
    (hhigh : q < 2 ^ 53) (h : n * 2 ^ (1074 - e) = q * 2 ^ (e - 1074)) :
    ofRatio negative n 1 = ofCode negative (e * 2 ^ 52 + q) := by
  have he : e = n.log2 + 1022 := log2_of_mul_eq hn hlow hhigh h
  rcases Nat.lt_or_ge 52 n.log2 with hlong | hshort
  · have hzero : 1074 - e = 0 := by omega
    have hcut : e - 1074 = n.log2 - 52 := by omega
    rw [hzero, pow_zero, mul_one, hcut] at h
    have hround : roundHalfEven n (2 ^ (n.log2 - 52)) = q := by
      have hmul := roundHalfEven_mul (Nat.two_pow_pos (n.log2 - 52)) q
      rwa [← h] at hmul
    rw [ofRatio_of_lt_log2 negative hlong, he, hround]
  · have hzero : e - 1074 = 0 := by omega
    have hcut : 1074 - e = 52 - n.log2 := by omega
    rw [hzero, pow_zero, mul_one, hcut] at h
    rw [ofRatio_of_log2_le negative hn hshort, he, h]

/-- Below the smallest normal number zero is the only integer, and its code is zero. -/
theorem Holds.of_exponentField_eq_zero {x : Binary64} {i : Int} (h : x.Holds i)
    (hfield : x.exponentField = 0) : i = 0 ∧ x.code.val = 0 := by
  have hscale : x.scale = -1074 := by simp [scale, hfield]
  have hsignificand : x.significand = x.fraction := if_pos hfield
  have hfraction : x.fraction < 2 ^ 52 := Nat.mod_lt _ (by decide)
  have hsmall : 2 ^ 52 < x.denominator := by
    rw [denominator, hscale]
    exact Nat.pow_lt_pow_right (by decide) (by decide)
  have hmul : x.fraction = i.natAbs * x.denominator := by
    rw [← h.magnitude, numerator, hscale, hsignificand]
    exact (mul_one _).symm
  -- a fraction below the denominator is no multiple of it, but for zero
  have hzero : i.natAbs = 0 := by
    by_contra hne
    have hge : x.denominator ≤ i.natAbs * x.denominator :=
      Nat.le_mul_of_pos_left _ (by omega)
    omega
  rw [hzero, zero_mul] at hmul
  refine ⟨Int.natAbs_eq_zero.mp hzero, ?_⟩
  have hdiv : x.code.val / 2 ^ 52 = 0 := hfield
  have hmod : x.code.val % 2 ^ 52 = 0 := hmul
  omega

/-- A double that holds an integer is what the integer is rounded to. -/
theorem Holds.eq_ofInt {x : Binary64} {i : Int} (h : x.Holds i) : x = ofInt i := by
  by_cases hfield : x.exponentField = 0
  · obtain ⟨rfl, hcode⟩ := h.of_exponentField_eq_zero hfield
    have hnegative : x.negative = false := h.negative
    have hzero : ofInt 0 = ofCode false 0 := rfl
    obtain ⟨negative, code⟩ := x
    simp only at hcode hnegative
    rw [hzero, hnegative]
    exact congrArg (Binary64.mk false) (Fin.ext hcode)
  · have hnormal : x.scale = ((x.exponentField - 1 : Nat) : Int) - 1074 := by
      rw [scale]
      omega
    have hlow : 2 ^ 52 ≤ x.significand := by
      rw [significand, if_neg hfield]
      omega
    have hhigh : x.significand < 2 ^ 53 := x.significand_lt
    have hmagnitude := h.magnitude
    -- a normal number is not zero
    have hn : i.natAbs ≠ 0 := by
      intro hzero
      rw [hzero, zero_mul, numerator] at hmagnitude
      have hpos : 0 < x.significand * 2 ^ x.scale.toNat :=
        Nat.mul_pos (by omega) (Nat.two_pow_pos _)
      omega
    have hup : x.scale.toNat = x.exponentField - 1 - 1074 := by omega
    have hdown : (-x.scale).toNat = 1074 - (x.exponentField - 1) := by omega
    rw [numerator, denominator, hup, hdown] at hmagnitude
    rw [ofInt, ← h.negative, ofRatio_of_mul_eq _ hn hlow hhigh hmagnitude.symm]
    exact eq_ofCode_of_finite h.finite hfield

/-- The number put together from a significand and an exponent field holds the integer that they
    amount to. -/
theorem holds_ofCode {i : Int} {e q : Nat} (hlow : 2 ^ 52 ≤ q) (hhigh : q < 2 ^ 53)
    (he : e < 2046) (h : i.natAbs * 2 ^ (1074 - e) = q * 2 ^ (e - 1074)) :
    (ofCode (decide (i < 0)) (e * 2 ^ 52 + q)).Holds i := by
  obtain ⟨hfinite, hsignificand, hscale⟩ := ofCode_normal (decide (i < 0)) hlow hhigh he
  have hup : ((e : Int) - 1074).toNat = e - 1074 := by omega
  have hdown : (-((e : Int) - 1074)).toNat = 1074 - e := by omega
  refine ⟨hfinite, rfl, ?_⟩
  rw [numerator, denominator, hsignificand, hscale, hup, hdown, h]

/-- Rounding keeps an integer that a significand and a scale amount to. -/
theorem holds_ofInt_of_mul_eq {i : Int} {e q : Nat} (hi : i ≠ 0) (hlow : 2 ^ 52 ≤ q)
    (hhigh : q < 2 ^ 53) (he : e < 2046) (h : i.natAbs * 2 ^ (1074 - e) = q * 2 ^ (e - 1074)) :
    (ofInt i).Holds i := by
  rw [ofInt, ofRatio_of_mul_eq _ (Int.natAbs_ne_zero.mpr hi) hlow hhigh h]
  exact holds_ofCode hlow hhigh he h

theorem holds_zero : (ofInt 0).Holds 0 := by
  refine ⟨by decide, by decide, ?_⟩
  rw [Int.natAbs_zero, zero_mul]
  decide

/-- The bits of a short integer, moved up so that the leading one is in its place. -/
theorem leading_of_log2_le {n : Nat} (hn : n ≠ 0) (hshort : n.log2 ≤ 52) :
    2 ^ 52 ≤ n * 2 ^ (52 - n.log2) ∧ n * 2 ^ (52 - n.log2) < 2 ^ 53 := by
  have hbits : n * 2 ^ (52 - n.log2) ≠ 0 := Nat.mul_ne_zero hn (Nat.two_pow_pos _).ne'
  have hleading : (n * 2 ^ (52 - n.log2)).log2 = 52 := by
    rw [log2_mul_two_pow hn]
    omega
  exact (Nat.log2_eq_iff hbits).mp hleading

/-- A short integer is held by what it is rounded to. -/
private theorem holds_ofInt_of_log2_le {i : Int} (hi : i ≠ 0) (hlog : i.natAbs.log2 ≤ 52) :
    (ofInt i).Holds i := by
  obtain ⟨hlow, hhigh⟩ := leading_of_log2_le (Int.natAbs_ne_zero.mpr hi) hlog
  -- the exponent field for what the integer was moved by
  obtain ⟨e, he⟩ : ∃ e, e = i.natAbs.log2 + 1022 := ⟨_, rfl⟩
  have hup : e - 1074 = 0 := by omega
  have hdown : 1074 - e = 52 - i.natAbs.log2 := by omega
  refine holds_ofInt_of_mul_eq (e := e) hi hlow hhigh (by omega) ?_
  rw [hup, hdown, pow_zero, mul_one]

/-- The 53 leading bits of a long integer, rounded, or the next power of two. -/
private theorem leading_of_lt_log2 {n : Nat} (hlong : 52 < n.log2) :
    2 ^ 52 ≤ roundHalfEven n (2 ^ (n.log2 - 52)) ∧
    roundHalfEven n (2 ^ (n.log2 - 52)) ≤ 2 ^ 53 := by
  have hn : n ≠ 0 := by
    rintro rfl
    exact absurd hlong (by decide)
  have hcut : 0 < 2 ^ (n.log2 - 52) := Nat.two_pow_pos _
  have hlow : 2 ^ 52 ≤ n / 2 ^ (n.log2 - 52) := by
    rw [Nat.le_div_iff_mul_le hcut, ← pow_add, Nat.add_sub_cancel' hlong.le]
    exact Nat.log2_self_le hn
  -- of the leading bits the first is one, and there are 53 of them
  have hhigh : n / 2 ^ (n.log2 - 52) < 2 ^ 53 := by
    rw [Nat.div_lt_iff_lt_mul hcut, ← pow_add]
    have hbits : 53 + (n.log2 - 52) = n.log2 + 1 := by omega
    rw [hbits]
    exact Nat.lt_log2_self
  rcases roundHalfEven_cases n (2 ^ (n.log2 - 52)) with heq | heq
  · omega
  · omega

/-- An integer of more than 53 bits is rounded to an integer, as the last place of its double is
    above one. -/
theorem ofInt_of_lt_log2 {i : Int} (hlong : 52 < i.natAbs.log2) (hlog : i.natAbs.log2 < 1023) :
    (ofInt i).isFinite = true ∧ (ofInt i).denominator = 1 := by
  obtain ⟨hlow, hhigh⟩ := leading_of_lt_log2 hlong
  rw [ofInt, ofRatio_of_lt_log2 _ hlong]
  rcases hhigh.lt_or_eq with hlt | heq
  · obtain ⟨hfinite, _, hscale⟩ :=
      ofCode_normal (decide (i < 0)) (e := i.natAbs.log2 + 1022) hlow hlt (by omega)
    refine ⟨hfinite, ?_⟩
    have hwhole : (-((i.natAbs.log2 + 1022 : Nat) - 1074 : Int)).toNat = 0 := by omega
    rw [denominator, hscale, hwhole, pow_zero]
  · -- rounded up to a power of two, the number carries into the exponent field
    have hcarry : (i.natAbs.log2 + 1022) * 2 ^ 52 + 2 ^ 53 =
        (i.natAbs.log2 + 1023) * 2 ^ 52 + 2 ^ 52 := by omega
    obtain ⟨hfinite, _, hscale⟩ :=
      ofCode_normal (decide (i < 0)) (e := i.natAbs.log2 + 1023) (q := 2 ^ 52) (by omega)
        (by omega) (by omega)
    rw [heq, hcarry]
    refine ⟨hfinite, ?_⟩
    have hwhole : (-((i.natAbs.log2 + 1023 : Nat) - 1074 : Int)).toNat = 0 := by omega
    rw [denominator, hscale, hwhole, pow_zero]

/-- **Held integers.** A double holds an integer exactly if rounding the integer gives that
    double and truncating it gives the integer back. -/
theorem holds_iff {x : Binary64} {i : Int} (hlog : i.natAbs.log2 < 1023) :
    x.Holds i ↔ x = ofInt i ∧ x.toInt = i := by
  constructor
  · intro h
    exact ⟨h.eq_ofInt, h.toInt_eq⟩
  · rintro ⟨rfl, hback⟩
    by_cases hi : i = 0
    · subst hi
      exact holds_zero
    · rcases Nat.lt_or_ge 52 i.natAbs.log2 with hlong | hshort
      · obtain ⟨hfinite, hwhole⟩ := ofInt_of_lt_log2 hlong hlog
        have hnegative : (ofInt i).negative = decide (i < 0) := by
          rw [ofInt, ofRatio_of_lt_log2 _ hlong]
          rfl
        refine ⟨hfinite, hnegative, ?_⟩
        rw [hwhole, mul_one]
        simp only [toInt, hwhole, hnegative, decide_eq_true_eq] at hback
        split at hback <;> omega
      · exact holds_ofInt_of_log2_le hi hshort

end SqlClient.Binary64
