import SqlClient.Json.Document

namespace SqlClient

/-!
# Text in quotes read back

Reading undoes quoting, character by character: an escape takes one character or one code
unit, and what is not escaped is itself.

* `TextUnit.of` — the unit that a character in quotes is read as.
* `Json.escapeChar_cases` — the three ways in which a character is written.
* `Document.readUnits?_quoted` — a text in quotes is read to its end and no further.
* `Document.textOf?_units` — its units stand for the text again.
-/

/-- Controls without a letter of their own are written as code units. -/
def TextUnit.of (c : Char) : TextUnit :=
  if c.toNat < 0x20 ∧ c ≠ '\x08' ∧ c ≠ '\x0c' ∧ c ≠ '\n' ∧ c ≠ '\r' ∧ c ≠ '\t' then
    .unit c.toNat
  else .char c

/-- A character is written with a letter of its own, or as a code unit if it is a control, or
    as it is. -/
theorem Json.escapeChar_cases (c : Char) :
    (∃ letter, letter ≠ 'u' ∧ 0x20 ≤ letter.toNat ∧ Document.shortEscape? letter = some c ∧
      escapeChar c = ['\\', letter] ∧ TextUnit.of c = .char c) ∨
    (c.toNat < 0x20 ∧ TextUnit.of c = .unit c.toNat ∧
      escapeChar c = '\\' :: 'u' :: '0' :: '0' :: Text.hexByte (UInt8.ofNat c.toNat)) ∨
    (c ≠ '"' ∧ c ≠ '\\' ∧ 0x20 ≤ c.toNat ∧ escapeChar c = [c] ∧ TextUnit.of c = .char c) := by
  -- seven characters have an escape of one letter
  by_cases hquote : c = '"'
  · subst hquote
    exact .inl ⟨'"', by decide, by decide, rfl, rfl, rfl⟩
  by_cases hslash : c = '\\'
  · subst hslash
    exact .inl ⟨'\\', by decide, by decide, rfl, rfl, rfl⟩
  by_cases hback : c = '\x08'
  · subst hback
    exact .inl ⟨'b', by decide, by decide, rfl, rfl, rfl⟩
  by_cases hfeed : c = '\x0c'
  · subst hfeed
    exact .inl ⟨'f', by decide, by decide, rfl, rfl, rfl⟩
  by_cases hline : c = '\n'
  · subst hline
    exact .inl ⟨'n', by decide, by decide, rfl, rfl, rfl⟩
  by_cases hreturn : c = '\r'
  · subst hreturn
    exact .inl ⟨'r', by decide, by decide, rfl, rfl, rfl⟩
  by_cases htab : c = '\t'
  · subst htab
    exact .inl ⟨'t', by decide, by decide, rfl, rfl, rfl⟩
  refine .inr ?_
  -- of those left, control characters are written as their codes, and others as they are
  by_cases hcontrol : c.toNat < 0x20
  · refine .inl ⟨hcontrol, if_pos ⟨hcontrol, hback, hfeed, hline, hreturn, htab⟩, ?_⟩
    simp only [escapeChar, hquote, hslash, hback, hfeed, hline, hreturn, htab, hcontrol, if_false,
      if_true]
  · refine .inr ⟨hquote, hslash, Nat.not_lt.mp hcontrol, ?_, if_neg fun h => hcontrol h.1⟩
    simp only [escapeChar, hquote, hslash, hback, hfeed, hline, hreturn, htab, hcontrol, if_false]

namespace Document

/-! ### One character -/

/-- An escape of one letter is taken off the front, and stands for the character that it was
    written for. -/
private theorem readUnits?_short {c escaped : Char} (hc : c ≠ 'u')
    (h : shortEscape? c = some escaped)
    (rest : List Char) :
    readUnits? ('\\' :: c :: rest) =
      (readUnits? rest).map fun p => (.char escaped :: p.1, p.2) := by
  rw [readUnits?, h]
  · cases readUnits? rest <;> rfl
  · exact fun _ _ _ _ _ hu => absurd hu hc

/-- A character that needs no escape is taken off the front. -/
private theorem readUnits?_bare {c : Char} (hquote : c ≠ '"') (hslash : c ≠ '\\')
    (hcontrol : ¬ c.toNat < 0x20) (rest : List Char) :
    readUnits? (c :: rest) = (readUnits? rest).map fun p => (.char c :: p.1, p.2) := by
  rw [readUnits?, if_neg (not_or.mpr ⟨hcontrol, hslash⟩)]
  · cases readUnits? rest <;> rfl
  · exact hquote
  · exact fun _ _ _ _ _ hu => absurd hu hslash
  · exact fun _ _ hu => absurd hu hslash

/-- The code of a control character is read back from two zeros and the two digits of its byte. -/
private theorem codeUnit?_hexByte : ∀ n < 0x20, ∃ high low,
    Text.hexByte (UInt8.ofNat n) = [high, low] ∧ codeUnit? '0' '0' high low = some n := by
  intro n hn
  refine ⟨_, _, rfl, ?_⟩
  revert n
  decide

/-- A character is taken off the front as it is written in quotes. -/
theorem readUnits?_escapeChar (c : Char) (rest : List Char) :
    readUnits? (Json.escapeChar c ++ rest) =
      (readUnits? rest).map fun p => (TextUnit.of c :: p.1, p.2) := by
  rcases Json.escapeChar_cases c with ⟨letter, hletter, _, hescape, hwritten, hunit⟩ |
    ⟨hcontrol, hunit, hwritten⟩ | ⟨hquote, hslash, hcontrol, hwritten, hunit⟩
  · rw [hwritten, hunit]
    exact readUnits?_short hletter hescape rest
  · obtain ⟨high, low, hdigits, hcode⟩ := codeUnit?_hexByte c.toNat hcontrol
    rw [hwritten, hdigits, hunit]
    simp only [List.cons_append, List.nil_append]
    rw [readUnits?, hcode]
    cases readUnits? rest <;> rfl
  · rw [hwritten, hunit]
    exact readUnits?_bare hquote hslash (Nat.not_lt.mpr hcontrol) rest

/-! ### Whole texts -/

/-- A text in quotes is read up to the closing quote. -/
theorem readUnits?_quoted (cs rest : List Char) :
    readUnits? (cs.flatMap Json.escapeChar ++ '"' :: rest) = some (cs.map TextUnit.of, rest) := by
  induction cs with
  | nil => rfl
  | cons c cs ih =>
    rw [List.flatMap_cons, List.append_assoc, readUnits?_escapeChar, ih]
    rfl

/-- A code unit below the surrogates stands for a character by itself. -/
theorem decodeUnits?_unit {n : Nat} (hn : n < 0xd800) (rest : List TextUnit) :
    decodeUnits? (.unit n :: rest) = (decodeUnits? rest).map (Char.ofNat n :: ·) := by
  have hhigh : ¬ (0xd800 ≤ n ∧ n < 0xdc00) := by omega
  have hlow : ¬ (0xdc00 ≤ n ∧ n < 0xe000) := by omega
  have hone : ¬ (0xd800 ≤ n ∧ n < 0xe000) := by omega
  cases rest with
  | nil => exact if_neg hone
  | cons u others =>
    cases u with
    | char c => exact if_neg hone
    | unit m => exact (if_neg hhigh).trans (if_neg hlow)

/-- The units stand for the characters again: none of them is half of a pair. -/
theorem decodeUnits?_units (cs : List Char) : decodeUnits? (cs.map TextUnit.of) = some cs := by
  induction cs with
  | nil => rfl
  | cons c cs ih =>
    rw [List.map_cons, TextUnit.of]
    split
    · rename_i h
      have hn : c.toNat < 0xd800 := by omega
      rw [decodeUnits?_unit hn, ih, Option.map_some, Char.ofNat_toNat]
    · rw [decodeUnits?, ih]
      rfl

theorem textOf?_units (s : String) : textOf? (s.toList.map TextUnit.of) = some s := by
  rw [textOf?, decodeUnits?_units, Option.map_some, String.ofList_toList]

end Document

end SqlClient
