import SqlClient.Json.Numeral
import SqlClient.Proofs.Text.Digits

namespace SqlClient

/-!
# Integers in JSON text

An integer is written as a numeral without point or exponent, and read back from there, if
what follows does not go on with the number.

* `Numeral.ofInt` — the numeral of an integer.
* `Numeral.Ends` — a text that does not go on with a number.
* `Numeral.read?_toString` — the text of an integer is read as its numeral.
* `Numeral.toInt?_ofInt` — the numeral stands for the integer, if it is one of 64 bits.
-/

namespace Text

/-- The decimal text of an integer is the digits of its magnitude, with a sign in front if it is
    negative. -/
theorem toList_toString_int (i : Int) :
    (toString i).toList =
      if i < 0 then '-' :: Nat.toDigits 10 i.natAbs else Nat.toDigits 10 i.natAbs := by
  cases i with
  | ofNat n =>
    have hn : ¬ Int.ofNat n < 0 := Int.not_lt.mpr (Int.natCast_nonneg n)
    rw [if_neg hn]
    simp [toString, Int.repr, Nat.repr]
  | negSucc n =>
    rw [if_pos (Int.negSucc_lt_zero n)]
    simp [toString, Int.repr, Nat.repr, Int.natAbs]

theorem allDigits_toDigits (n : Nat) : AllDigits (Nat.toDigits 10 n) := fun _ hc =>
  Nat.isDigit_of_mem_toDigits (by decide) (by decide) hc

/-- The text of an integer begins with its sign or a digit. -/
theorem exists_cons_toString_int (i : Int) :
    ∃ c cs, (toString i).toList = c :: cs ∧ (c = '-' ∨ c.isDigit = true) := by
  rw [toList_toString_int]
  by_cases hi : i < 0
  · rw [if_pos hi]
    exact ⟨'-', _, rfl, .inl rfl⟩
  · have hne : Nat.toDigits 10 i.natAbs ≠ [] := Nat.toDigits_ne_nil
    obtain ⟨c, cs, hc⟩ := List.exists_cons_of_ne_nil hne
    rw [if_neg hi]
    exact ⟨c, cs, hc, .inr (allDigits_toDigits i.natAbs c (hc ▸ List.mem_cons_self))⟩

/-- Only zero begins with a zero, so the digits of a number are not taken for a zero and more
    behind it. -/
private theorem head?_toDigits_ne {n : Nat} (hn : 0 < n) :
    (Nat.toDigits 10 n).head? ≠ some '0' := by
  induction n using Nat.strongRecOn with
  | ind n ih =>
    by_cases hten : n < 10
    · have hdigit : ∀ d < 10, 0 < d → some (Nat.digitChar d) ≠ some '0' := by decide
      rw [Nat.toDigits_of_lt_base hten]
      exact hdigit n hten hn
    · -- the first digit is that of the number without its last
      have hle : 10 ≤ n := Nat.not_lt.mp hten
      have hfirst := ih (n / 10) (by omega) (by omega)
      rw [Nat.toDigits_of_base_le (by decide) hle, List.head?_append]
      cases hhead : (Nat.toDigits 10 (n / 10)).head? with
      | none => exact absurd (List.head?_eq_none_iff.mp hhead) Nat.toDigits_ne_nil
      | some c =>
        rw [hhead] at hfirst
        exact hfirst

end Text

namespace Numeral

open Text

/-- The numeral an integer is written as. -/
def ofInt (i : Int) : Numeral := ⟨decide (i < 0), Nat.toDigits 10 i.natAbs, none, none⟩

/-- The text is at its end, or goes on with what is no part of a number. -/
def Ends (cs : List Char) : Prop :=
  ∀ c ∈ cs.head?, c.isDigit = false ∧ c ≠ '.' ∧ c ≠ 'e' ∧ c ≠ 'E'

theorem ends_nil : Ends [] := nofun

theorem ends_cons {c : Char} (h : c.isDigit = false ∧ c ≠ '.' ∧ c ≠ 'e' ∧ c ≠ 'E')
    (cs : List Char) : Ends (c :: cs) := by
  rintro _ ⟨⟩
  exact h

theorem Ends.noDigitAhead {cs : List Char} (h : Ends cs) : NoDigitAhead cs :=
  fun c hc => (h c hc).1

/-- The digits of a number are read as a whole part, up to the first character that is no
    digit. -/
private theorem readWhole?_toDigits (n : Nat) {rest : List Char} (hrest : Ends rest) :
    readWhole? (Nat.toDigits 10 n ++ rest) = some (Nat.toDigits 10 n, rest) := by
  unfold readWhole?
  rw [spanDigits_append (allDigits_toDigits n) hrest.noDigitAhead]
  simp only
  split
  · rename_i hnil
    exact absurd hnil Nat.toDigits_ne_nil
  · rename_i d ds hzero
    by_cases hn : n = 0
    · rw [hn, Nat.toDigits_zero] at hzero
      exact absurd hzero (by simp)
    · refine absurd ?_ (head?_toDigits_ne (Nat.pos_of_ne_zero hn))
      rw [hzero]
      rfl
  · rfl

/-- Where a number ends, neither a fraction nor an exponent is read behind its whole part. -/
private theorem readRest_of_ends {rest : List Char} (hrest : Ends rest) :
    readFraction? rest = some (none, rest) ∧ readExponent? rest = some (none, rest) := by
  cases rest with
  | nil => exact ⟨rfl, rfl⟩
  | cons c cs =>
    obtain ⟨_, hpoint, hlower, hupper⟩ := hrest c rfl
    constructor
    · rw [readFraction?]
      rintro _ heq
      exact hpoint (List.cons.inj heq).1
    · unfold readExponent?
      exact if_neg (not_or.mpr ⟨hlower, hupper⟩)

/-- The text of an integer is read as its numeral, and what follows it is left. -/
theorem read?_toString (i : Int) {rest : List Char} (hrest : Ends rest) :
    read? ((toString i).toList ++ rest) = some (ofInt i, rest) := by
  obtain ⟨hfraction, hexponent⟩ := readRest_of_ends hrest
  have hwhole := readWhole?_toDigits i.natAbs hrest
  rw [toList_toString_int]
  unfold read? ofInt
  by_cases hi : i < 0
  · rw [if_pos hi, List.cons_append]
    simp only [hwhole, hfraction, hexponent, hi, decide_true, Option.bind_eq_bind,
      Option.bind_some]
  · rw [if_neg hi]
    -- no digit is a sign
    have hsign : ∀ cs, Nat.toDigits 10 i.natAbs ++ rest ≠ '-' :: cs := by
      intro cs heq
      have hdigit := (allDigits_toDigits i.natAbs).head Nat.toDigits_ne_nil heq
      exact absurd hdigit (by decide)
    split
    rename_i negative cs hmatch
    split at hmatch
    · rename_i heq
      exact absurd heq (hsign _)
    · obtain ⟨rfl, rfl⟩ := Prod.mk.inj hmatch
      simp only [hwhole, hfraction, hexponent, hi, decide_false, Option.bind_eq_bind,
        Option.bind_some]

/-- The numeral stands for the integer, if it is one of 64 bits. -/
theorem toInt?_ofInt {i : Int} (hlow : -(2 ^ 63) ≤ i) (hhigh : i < 2 ^ 64) :
    (ofInt i).toInt? = some i := by
  have hvalue : digitsValue (Nat.toDigits 10 i.natAbs) = i.natAbs := Nat.ofDigitChars_ten_toDigits
  unfold toInt? ofInt
  simp only [and_self, if_true, hvalue]
  by_cases hi : i < 0
  · have hrange : 0 < i.natAbs ∧ i.natAbs ≤ 2 ^ 63 := by omega
    rw [if_pos (decide_eq_true hi), if_pos hrange]
    exact congrArg some (by omega)
  · have hrange : i.natAbs < 2 ^ 64 := by omega
    rw [if_neg (by simpa using hi), if_pos hrange]
    exact congrArg some (by omega)

end Numeral

end SqlClient
