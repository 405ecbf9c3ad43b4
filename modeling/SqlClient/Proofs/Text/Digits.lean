import Mathlib.Data.List.TakeDrop
import SqlClient.Proofs.Text.Blank
import SqlClient.Text.Digits

namespace SqlClient.Text

/-!
# Digits read back

A padded number is a run of digits with the number as its value.  Reading takes the run off
the front again, if the run is as wide as reading looks, or no digit follows it.

* `AllDigits`, `NoDigitAhead` — a run of digits, and a text that does not go on with one.
* `readNumber?_append` — a run is read as its value, and what follows is left.
* `digitsValue_padded`, `length_padded` — the value and the width of a padded number.
-/

/-- A run of digits. -/
def AllDigits (ds : List Char) : Prop := ∀ c ∈ ds, c.isDigit = true

/-- The text is at its end, or goes on with something that is no digit. -/
def NoDigitAhead (cs : List Char) : Prop := ∀ c ∈ cs.head?, c.isDigit = false

theorem noDigitAhead_nil : NoDigitAhead [] := nofun

theorem noDigitAhead_cons {c : Char} (h : c.isDigit = false) (cs : List Char) :
    NoDigitAhead (c :: cs) := by
  rintro _ ⟨⟩
  exact h

/-- A text that begins with a run of digits begins with a digit. -/
theorem AllDigits.head {ds rest cs : List Char} {c : Char} (hds : AllDigits ds) (hne : ds ≠ [])
    (h : ds ++ rest = c :: cs) : c.isDigit = true := by
  cases ds with
  | nil => exact absurd rfl hne
  | cons d others =>
    obtain ⟨rfl, _⟩ := List.cons.inj h
    exact hds d List.mem_cons_self

/-! ### Reading a run -/

/-- The digits at the front are the run and those that follow it. -/
theorem takeWhile_isDigit_append {ds : List Char} (hds : AllDigits ds) (rest : List Char) :
    (ds ++ rest).takeWhile Char.isDigit = ds ++ rest.takeWhile Char.isDigit :=
  List.takeWhile_append_of_pos hds

theorem takeWhile_isDigit_of_noDigitAhead {rest : List Char} (h : NoDigitAhead rest) :
    rest.takeWhile Char.isDigit = [] := by
  cases rest with
  | nil => rfl
  | cons c cs => exact List.takeWhile_cons_of_neg (by simp [h c rfl])

/-- A run of digits with none after it is taken off as a whole. -/
theorem spanDigits_append {ds rest : List Char} (hds : AllDigits ds)
    (hrest : NoDigitAhead rest) : spanDigits (ds ++ rest) = (ds, rest) := by
  have htake : (ds ++ rest).takeWhile Char.isDigit = ds := by
    rw [takeWhile_isDigit_append hds, takeWhile_isDigit_of_noDigitAhead hrest, List.append_nil]
  have hdrop : (ds ++ rest).dropWhile Char.isDigit = rest := by
    -- what is taken and what is left make up the text
    have hboth := List.takeWhile_append_dropWhile (p := Char.isDigit) (l := ds ++ rest)
    rw [htake] at hboth
    exact List.append_cancel_left hboth
  rw [spanDigits, List.span_eq_takeWhile_dropWhile, htake, hdrop]

/-- A run of digits is read as its value, if it is as wide as is looked, or if it is not
    wider and no digit follows. -/
theorem readNumber?_append {width : Nat} {ds rest : List Char} (hds : AllDigits ds)
    (hne : ds ≠ []) (hwidth : ds.length = width ∨ ds.length ≤ width ∧ NoDigitAhead rest) :
    readNumber? width (ds ++ rest) = some (digitsValue ds, rest) := by
  have htake : ((ds ++ rest).takeWhile Char.isDigit).take width = ds := by
    rw [takeWhile_isDigit_append hds]
    rcases hwidth with rfl | ⟨hle, hrest⟩
    · exact List.take_left
    · rw [takeWhile_isDigit_of_noDigitAhead hrest, List.append_nil, List.take_of_length_le hle]
  simp only [readNumber?, spanDigitsUpTo, htake, hne, if_false, List.drop_left]

/-- A number begins with a digit, so nothing is read where there is none. -/
theorem readNumber?_of_noDigitAhead {cs : List Char} (h : NoDigitAhead cs) (width : Nat) :
    readNumber? width cs = none := by
  simp only [readNumber?, spanDigitsUpTo, takeWhile_isDigit_of_noDigitAhead h, List.take_nil,
    if_true]

/-! ### Padded numbers -/

theorem allDigits_padded (width n : Nat) : AllDigits (padded width n) := by
  intro c hc
  rcases List.mem_append.mp hc with hzero | hdigit
  · rw [List.eq_of_mem_replicate hzero]
    rfl
  · exact Nat.isDigit_of_mem_toDigits (by decide) (by decide) hdigit

theorem padded_ne_nil (width n : Nat) : padded width n ≠ [] :=
  List.append_ne_nil_of_right_ne_nil _ Nat.toDigits_ne_nil

/-- Leading zeros do not count: a number is the same after it was padded to a width. -/
theorem digitsValue_padded (width n : Nat) : digitsValue (padded width n) = n := by
  rw [digitsValue, padded, Nat.ofDigitChars_append, Nat.ofDigitChars_replicate_zero, Nat.mul_zero,
    Nat.ofDigitChars_ten_toDigits]

/-- A number that is not too large is padded to the width and no wider. -/
theorem length_padded {width n : Nat} (hwidth : 0 < width) (hn : n < 10 ^ width) :
    (padded width n).length = width := by
  -- the digits fit, and zeros fill up what is left
  have hle : (Nat.toDigits 10 n).length ≤ width :=
    (Nat.length_toDigits_le_iff (by decide) hwidth).mpr hn
  simp only [padded, List.length_append, List.length_replicate]
  omega

/-- A padded number is read back from the front of a text. -/
theorem readNumber?_padded {width n : Nat} (hwidth : 0 < width) (hn : n < 10 ^ width)
    (rest : List Char) : readNumber? width (padded width n ++ rest) = some (n, rest) := by
  rw [readNumber?_append (allDigits_padded width n) (padded_ne_nil width n)
    (.inl (length_padded hwidth hn)), digitsValue_padded]

/-! ### Blanks before digits -/

/-- No digit is white space. -/
private theorem isBlank_of_isDigit {c : Char} (h : c.isDigit = true) : isBlank c = false := by
  obtain ⟨hlow, hhigh⟩ := Char.isDigit_iff_toNat.mp h
  have hlow' : 48 ≤ c.toNat := hlow
  have hhigh' : c.toNat ≤ 57 := hhigh
  simp [isBlank, blankRanges]
  omega

/-- There is nothing to skip before a run of digits. -/
theorem skipBlanks_append {ds : List Char} (hds : AllDigits ds) (hne : ds ≠ [])
    (rest : List Char) : skipBlanks (ds ++ rest) = ds ++ rest := by
  cases ds with
  | nil => exact absurd rfl hne
  | cons c cs => exact skipBlanks_cons (isBlank_of_isDigit (hds c List.mem_cons_self)) _

end SqlClient.Text
