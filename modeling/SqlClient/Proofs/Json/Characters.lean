import SqlClient.Proofs.Json.Integers
import SqlClient.Proofs.Json.Quoted

namespace SqlClient

/-!
# Characters of JSON text

Compact JSON text is never empty, and there is no control character in it, whatever the texts
inside it are made of.  So it stands on one line.

* `Text.NoControls` — a text without control characters.
* `NumberStyle.noControls_text` — numbers.
* `Json.noControls_chars`, `Json.newline_not_mem_chars` — all of JSON.
-/

namespace Text

/-- There are no control characters in the text. -/
def NoControls (cs : List Char) : Prop := ∀ c ∈ cs, 0x20 ≤ c.toNat

instance (cs : List Char) : Decidable (NoControls cs) :=
  decidable_of_iff (cs.all (0x20 ≤ ·.toNat) = true) (by simp [NoControls])

/-- There is nothing in the empty text to be found fault with. -/
theorem noControls_nil : NoControls [] := fun _ hc => absurd hc List.not_mem_nil

/-- A text is free of control characters if its first character is none and the rest is free of
    them. -/
theorem noControls_cons {c : Char} {cs : List Char} :
    NoControls (c :: cs) ↔ 0x20 ≤ c.toNat ∧ NoControls cs :=
  List.forall_mem_cons

/-- Two texts, one behind the other, are free of control characters if both are. -/
theorem noControls_append {cs ds : List Char} :
    NoControls (cs ++ ds) ↔ NoControls cs ∧ NoControls ds :=
  List.forall_mem_append

/-- A text stays free of control characters where some of its characters are taken out. -/
theorem NoControls.sublist {cs ds : List Char} (h : NoControls cs) (hds : ds.Sublist cs) :
    NoControls ds :=
  fun c hc => h c (hds.subset hc)

/-- Digits are no control characters. -/
theorem AllDigits.noControls {ds : List Char} (h : AllDigits ds) : NoControls ds := by
  intro c hc
  have hlow : 48 ≤ c.toNat := (Char.isDigit_iff_toNat.mp (h c hc)).1
  omega

/-- A natural number is written in digits, so without control characters. -/
theorem noControls_toDigits (n : Nat) : NoControls (Nat.toDigits 10 n) :=
  (allDigits_toDigits n).noControls

/-- Zeros in front of a number, or behind it, are no control characters either. -/
theorem noControls_replicate_zero (count : Nat) : NoControls (List.replicate count '0') := by
  intro c hc
  rw [List.eq_of_mem_replicate hc]
  decide

/-- An integer is written as its digits, with a sign at most, so without control characters. -/
theorem noControls_toString_int (i : Int) : NoControls (toString i).toList := by
  rw [toList_toString_int]
  split
  · exact noControls_cons.mpr ⟨by decide, noControls_toDigits _⟩
  · exact noControls_toDigits _

end Text

open Text

/-! ### Numbers -/

namespace NumberStyle

/-- A double in positions is digits, zeros, a sign and a point, and whatever ends a whole number
    in the style. -/
theorem noControls_positionalText {style : NumberStyle}
    (hstyle : NoControls style.wholeEnd.toList) (d : Decimal) :
    NoControls (style.positionalText d).toList := by
  have hdigits : NoControls (Nat.toDigits 10 d.digits) := noControls_toDigits _
  unfold positionalText
  simp only
  split
  · rw [String.toList_append, String.toList_ofList]
    exact noControls_append.mpr
      ⟨noControls_append.mpr ⟨hdigits, noControls_replicate_zero _⟩, hstyle⟩
  · rw [String.toList_ofList]
    -- the point stands inside the digits, with zeros before them as far as it takes
    have hpadded := noControls_append.mpr
      ⟨noControls_replicate_zero ((-d.exponent).toNat + 1 - (Nat.toDigits 10 d.digits).length),
        hdigits⟩
    refine noControls_append.mpr ⟨hpadded.sublist (List.take_sublist _ _), ?_⟩
    exact noControls_cons.mpr ⟨by decide, hpadded.sublist (List.drop_sublist _ _)⟩

/-- A double with an exponent adds a letter and a sign to its digits. -/
private theorem noControls_exponentText (style : NumberStyle) (d : Decimal) :
    NoControls (style.exponentText d).toList := by
  have hdigits : NoControls (Nat.toDigits 10 d.digits) := noControls_toDigits _
  have hrest : NoControls ((Nat.toDigits 10 d.digits).drop 1) :=
    hdigits.sublist (List.drop_sublist _ _)
  have hplus : NoControls
      (if style.exponentPlus && decide (0 ≤ d.leading) then "+" else "").toList := by
    split <;> decide
  have hfraction : NoControls (if (Nat.toDigits 10 d.digits).drop 1 = [] then ""
      else "." ++ String.ofList ((Nat.toDigits 10 d.digits).drop 1)).toList := by
    split
    · decide
    · rw [String.toList_append]
      refine noControls_append.mpr ⟨by decide, ?_⟩
      rw [String.toList_ofList]
      exact hrest
  -- digits with their point, the letter, the sign, and the exponent
  unfold exponentText
  simp only [String.toList_append, String.toList_ofList]
  refine noControls_append.mpr ⟨noControls_append.mpr ⟨noControls_append.mpr ⟨?_, ?_⟩, hplus⟩,
    noControls_toString_int _⟩
  · exact noControls_append.mpr ⟨hdigits.sublist (List.take_sublist _ _), hfraction⟩
  · decide

/-- A double is written without control characters in every style that ends whole numbers without
    them, be it finite or not. -/
theorem noControls_text {style : NumberStyle} (hstyle : NoControls style.wholeEnd.toList)
    (x : Binary64) : NoControls (style.text x).toList := by
  unfold text
  split
  · decide
  · rw [String.toList_append]
    refine noControls_append.mpr ⟨by split <;> decide, ?_⟩
    split
    · simp only
      split
      · exact noControls_positionalText hstyle _
      · split
        · exact noControls_positionalText hstyle _
        · exact noControls_exponentText style _
    · decide

end NumberStyle

/-! ### Values -/

namespace Json

/-- What is written for a character of a text is free of control characters: those there are, are
    escaped. -/
private theorem noControls_escapeChar (c : Char) : NoControls (escapeChar c) := by
  rcases escapeChar_cases c with ⟨letter, _, hletter, _, hwritten, _⟩ | ⟨hcontrol, _, hwritten⟩ |
    ⟨_, _, hc, hwritten, _⟩
  · rw [hwritten]
    exact noControls_cons.mpr ⟨by decide, noControls_cons.mpr ⟨hletter, noControls_nil⟩⟩
  · have hcode : ∀ n < 0x20,
        NoControls ('\\' :: 'u' :: '0' :: '0' :: hexByte (UInt8.ofNat n)) := by
      decide
    rw [hwritten]
    exact hcode c.toNat hcontrol
  · rw [hwritten]
    exact noControls_cons.mpr ⟨hc, noControls_nil⟩

/-- **A text in quotes** is free of control characters, whatever it says. -/
theorem noControls_quoted (s : String) : NoControls (quoted s) := by
  refine noControls_cons.mpr ⟨by decide, noControls_append.mpr ⟨fun c hc => ?_, by decide⟩⟩
  obtain ⟨d, _, hd⟩ := List.mem_flatMap.mp hc
  exact noControls_escapeChar d c hd

/-- So is the document of a double, which is null if the double is not finite. -/
private theorem noControls_floatChars (x : Binary64) : NoControls (floatChars x) := by
  unfold floatChars
  split
  · exact NumberStyle.noControls_text (by decide) x
  · decide

mutual

/-- **No control characters.** The compact text of a value has none, whatever the value is
    made of. -/
theorem noControls_chars (j : Json) : NoControls j.chars := by
  cases j with
  | null => decide
  | bool b => cases b <;> decide
  | int i => exact noControls_toString_int i
  | float x => exact noControls_floatChars x
  | text s => exact noControls_quoted s
  | array items =>
    refine noControls_cons.mpr ⟨by decide, noControls_append.mpr ⟨?_, by decide⟩⟩
    exact noControls_itemsChars items
  | object members =>
    refine noControls_cons.mpr ⟨by decide, noControls_append.mpr ⟨?_, by decide⟩⟩
    exact noControls_membersChars members

/-- So is the inside of an array, item by item, with commas in between. -/
theorem noControls_itemsChars (items : List Json) : NoControls (itemsChars items) := by
  match items with
  | [] => exact noControls_nil
  | [item] => exact noControls_chars item
  | item :: next :: rest =>
    refine noControls_append.mpr ⟨noControls_chars item, noControls_cons.mpr ⟨by decide, ?_⟩⟩
    exact noControls_itemsChars (next :: rest)

/-- So is the inside of an object, where every name is a text in quotes. -/
theorem noControls_membersChars (members : List (String × Json)) :
    NoControls (membersChars members) := by
  match members with
  | [] => exact noControls_nil
  | [(name, value)] =>
    refine noControls_append.mpr ⟨noControls_quoted name, noControls_cons.mpr ⟨by decide, ?_⟩⟩
    exact noControls_chars value
  | (name, value) :: next :: rest =>
    refine noControls_append.mpr ⟨noControls_append.mpr ⟨noControls_quoted name, ?_⟩, ?_⟩
    · exact noControls_cons.mpr ⟨by decide, noControls_chars value⟩
    · exact noControls_cons.mpr ⟨by decide, noControls_membersChars (next :: rest)⟩

end

/-- The text of a value is on one line, as a line break in it is a control character, and is
    escaped. -/
theorem newline_not_mem_chars (j : Json) : '\n' ∉ j.chars :=
  fun h => absurd (noControls_chars j '\n' h) (by decide)

end Json

end SqlClient
