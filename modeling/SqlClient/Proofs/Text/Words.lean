import Mathlib.Data.List.Induction
import SqlClient.Proofs.Text.Digits

namespace SqlClient.Text

/-!
# Numbers of 64 bits

A number is read digit by digit, and given up as soon as it does not fit.  No digit makes a
number smaller, so it is given up exactly if the whole of it does not fit.

* `Denotes` — the number that a run of digits stands for.
* `pushDigit?_eq_some_iff` — one more digit.
* `readWord?_eq_some_iff` — the runs of digits that are read, and as what.
* `Denotes.skipPlus_eq` — a run of digits begins with no sign.
-/

/-- A run of one or more decimal digits and the number it stands for, the last digit being the
    units. -/
inductive Denotes : List Char → Nat → Prop where
  | digit (d : Fin 10) : Denotes [Nat.digitChar d] d
  | more {ds : List Char} {n : Nat} (d : Fin 10) (h : Denotes ds n) :
      Denotes (ds ++ [Nat.digitChar d]) (10 * n + d)

/-! ### One digit -/

/-- The digits are ten characters, each that of a number below ten. -/
theorem isDigit_iff {c : Char} : c.isDigit = true ↔ ∃ d : Fin 10, c = Nat.digitChar d := by
  constructor
  · intro h
    obtain ⟨hlow, hhigh⟩ := Char.isDigit_iff_toNat.mp h
    have hlow' : 48 ≤ c.toNat := hlow
    have hhigh' : c.toNat ≤ 57 := hhigh
    have hvalue : c.toNat - 48 < 10 := by omega
    refine ⟨⟨c.toNat - 48, hvalue⟩, Char.toNat_inj.mp ?_⟩
    rw [Nat.toNat_digitChar_of_lt_ten hvalue]
    omega
  · rintro ⟨d, rfl⟩
    rw [Nat.isDigit_digitChar]
    exact decide_eq_true d.isLt

/-- The digit of a number is the number away from the digit of zero. -/
theorem digitChar_value (d : Fin 10) : (Nat.digitChar d).toNat - '0'.toNat = d := by
  rw [Nat.toNat_digitChar_of_lt_ten d.isLt]
  exact Nat.add_sub_cancel_left 48 d

/-- A digit is put behind a number exactly if the greater number still has 64 bits. -/
theorem pushDigit?_eq_some_iff {word next : UInt64} {c : Char} :
    pushDigit? word c = some next ↔
      ∃ d : Fin 10, c = Nat.digitChar d ∧ 10 * word.toNat + d = next.toNat := by
  rw [pushDigit?, Option.ite_none_right_eq_some]
  constructor
  · rintro ⟨⟨hdigit, hfits⟩, hnext⟩
    obtain ⟨d, rfl⟩ := isDigit_iff.mp hdigit
    refine ⟨d, rfl, ?_⟩
    rw [← Option.some.inj hnext, UInt64.toNat_ofNat_of_lt' hfits, digitChar_value]
  · rintro ⟨d, rfl, hnext⟩
    rw [digitChar_value, hnext, UInt64.ofNat_toNat]
    exact ⟨⟨isDigit_iff.mpr ⟨d, rfl⟩, next.toNat_lt⟩, rfl⟩

/-! ### All digits -/

/-- The empty text denotes no number. -/
private theorem Denotes.ne_nil {ds : List Char} {n : Nat} (h : Denotes ds n) : ds ≠ [] := by
  cases h with
  | digit d => exact List.cons_ne_nil _ _
  | more d h => exact List.concat_ne_nil _ _

/-- A text that is not empty is read digit by digit, beginning with zero. -/
theorem readWord?_of_ne_nil {cs : List Char} (h : cs ≠ []) :
    readWord? cs = cs.foldlM pushDigit? 0 := by
  rw [readWord?]
  exact h

/-- A single digit is pushed onto zero. -/
theorem readWord?_singleton (c : Char) : readWord? [c] = pushDigit? 0 c := by
  rw [readWord?_of_ne_nil (List.cons_ne_nil c []), List.foldlM_cons]
  exact bind_pure _

/-- The last digit is put behind what stands before it. -/
theorem readWord?_concat {cs : List Char} (h : cs ≠ []) (c : Char) :
    readWord? (cs ++ [c]) = (readWord? cs).bind (pushDigit? · c) := by
  rw [readWord?_of_ne_nil (List.concat_ne_nil c cs), readWord?_of_ne_nil h, List.foldlM_append]
  simp only [List.foldlM_cons, List.foldlM_nil, bind_pure]
  rfl

/-- What is read as a word is a text of digits, and the word is the number that they denote. -/
theorem denotes_of_readWord? {cs : List Char} {word : UInt64} (h : readWord? cs = some word) :
    Denotes cs word.toNat := by
  induction cs using List.reverseRecOn generalizing word with
  | nil => exact absurd h nofun
  | append_singleton cs c ih =>
    by_cases hfirst : cs = []
    · subst hfirst
      rw [List.nil_append, readWord?_singleton] at h
      obtain ⟨d, rfl, hvalue⟩ := pushDigit?_eq_some_iff.mp h
      rw [← hvalue]
      simpa using Denotes.digit d
    · rw [readWord?_concat hfirst, Option.bind_eq_some_iff] at h
      obtain ⟨before, hbefore, hpush⟩ := h
      obtain ⟨d, rfl, hvalue⟩ := pushDigit?_eq_some_iff.mp hpush
      rw [← hvalue]
      exact .more d (ih hbefore)

/-- Digits that denote a word are read as it: no part of them denotes more, so no step
    overflows. -/
theorem Denotes.readWord?_eq {cs : List Char} {n : Nat} (h : Denotes cs n) {word : UInt64}
    (hword : n = word.toNat) : readWord? cs = some word := by
  induction h generalizing word with
  | digit d =>
    rw [readWord?_singleton]
    exact pushDigit?_eq_some_iff.mpr ⟨d, rfl, by simpa using hword⟩
  | @more ds n d h ih =>
    -- what stands before the last digit is no greater, so it fits as well
    have hfits : n < 2 ^ 64 := by
      have hlt := word.toNat_lt
      omega
    have hbefore : (UInt64.ofNat n).toNat = n := UInt64.toNat_ofNat_of_lt' hfits
    rw [readWord?_concat h.ne_nil, ih hbefore.symm, Option.bind_some]
    exact pushDigit?_eq_some_iff.mpr ⟨d, rfl, by rw [hbefore]; exact hword⟩

/-- The texts that are read as numbers of 64 bits are the runs of digits that stand for one,
    however many digits there are. -/
theorem readWord?_eq_some_iff {cs : List Char} {word : UInt64} :
    readWord? cs = some word ↔ Denotes cs word.toNat := by
  constructor
  · exact denotes_of_readWord?
  · intro h
    exact h.readWord?_eq rfl

/-! ### The sign -/

/-- A text that denotes a number is digits all along. -/
theorem Denotes.allDigits {ds : List Char} {n : Nat} (h : Denotes ds n) : AllDigits ds := by
  intro c hc
  induction h with
  | digit d => exact isDigit_iff.mpr ⟨d, List.mem_singleton.mp hc⟩
  | more d _ ih =>
    rcases List.mem_append.mp hc with hbefore | hlast
    · exact ih hbefore
    · exact isDigit_iff.mpr ⟨d, List.mem_singleton.mp hlast⟩

/-- One plus sign in front is skipped, and a second one would stay. -/
theorem skipPlus_cases (cs : List Char) : cs = '+' :: skipPlus cs ∨ cs = skipPlus cs := by
  fun_cases skipPlus cs with
  | case1 rest => exact .inl rfl
  | case2 _ => exact .inr rfl

/-- A run of digits has no sign in front, so skipping one leaves it as it is. -/
theorem Denotes.skipPlus_eq {ds : List Char} {n : Nat} (h : Denotes ds n) :
    skipPlus ds = ds := by
  rcases skipPlus_cases ds with hsign | hsign
  · have hplus : '+' ∈ ds := by
      rw [hsign]
      exact List.mem_cons_self
    exact absurd (h.allDigits '+' hplus) (by decide)
  · exact hsign.symm

end SqlClient.Text
