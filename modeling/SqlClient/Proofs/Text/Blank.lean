import SqlClient.Text.Blank

namespace SqlClient.Text

/-!
# White space at the ends of a text

Trimming takes white space off both ends of a text, and as much of it as there is: what is left
begins and ends with something else.  Only one text is left in this way.

* `skipBlanks_append_of_head` — white space in front, and what follows it.
* `Stripped` — what is left of a text without the white space at its ends.
* `trim_eq_iff` — trimming leaves it.
* `allBlank_eq_false_iff` — texts that are more than white space.
-/

/-- The text `core` is what is left of `cs` without the white space at both ends. -/
structure Stripped (cs core : List Char) : Prop where
  around : ∃ before after, (∀ c ∈ before, isBlank c = true) ∧ (∀ c ∈ after, isBlank c = true) ∧
    cs = before ++ core ++ after
  head : ∀ c ∈ core.head?, isBlank c = false
  last : ∀ c ∈ core.getLast?, isBlank c = false

/-! ### One end -/

/-- What is skipped at the front of a text is white space, and the rest is left as it is. -/
theorem exists_skipBlanks (cs : List Char) :
    ∃ before, (∀ c ∈ before, isBlank c = true) ∧ cs = before ++ skipBlanks cs := by
  refine ⟨cs.takeWhile isBlank, ?_, List.takeWhile_append_dropWhile.symm⟩
  exact List.all_eq_true.mp List.all_takeWhile

/-- All white space at the front is skipped, so the first character behind it is none. -/
theorem isBlank_of_mem_head?_skipBlanks {cs : List Char} {c : Char}
    (h : c ∈ (skipBlanks cs).head?) : isBlank c = false := by
  have hstop := List.head?_dropWhile_not isBlank cs
  rw [Option.mem_def, skipBlanks] at h
  rw [h] at hstop
  exact hstop

/-- There is nothing to skip before another character. -/
theorem skipBlanks_cons {c : Char} (h : isBlank c = false) (cs : List Char) :
    skipBlanks (c :: cs) = c :: cs :=
  List.dropWhile_cons_of_neg (by simp [h])

/-- White space is skipped up to the first other character. -/
theorem skipBlanks_append_of_head {before rest : List Char}
    (hbefore : ∀ c ∈ before, isBlank c = true) (hrest : ∀ c ∈ rest.head?, isBlank c = false) :
    skipBlanks (before ++ rest) = rest := by
  rw [skipBlanks, List.dropWhile_append_of_pos hbefore]
  cases rest with
  | nil => rfl
  | cons c others => exact skipBlanks_cons (hrest c rfl) others

/-! ### Both ends -/

theorem trim_stripped (cs : List Char) : Stripped cs (trim cs) := by
  obtain ⟨before, hbefore, hcs⟩ := exists_skipBlanks cs
  obtain ⟨after, hafter, hback⟩ := exists_skipBlanks (skipBlanks cs).reverse
  have hrest : skipBlanks cs = trim cs ++ after.reverse := by
    rw [trim, ← List.reverse_append, ← hback, List.reverse_reverse]
  constructor
  · refine ⟨before, after.reverse, hbefore, ?_, ?_⟩
    · intro c hc
      exact hafter c (List.mem_reverse.mp hc)
    · rw [List.append_assoc, ← hrest]
      exact hcs
  · -- what follows the white space in front begins with what is left
    intro c hc
    have hfirst : c ∈ (skipBlanks cs).head? := by
      rw [hrest, List.head?_append, Option.mem_def.mp hc, Option.some_or, Option.mem_def]
    exact isBlank_of_mem_head?_skipBlanks hfirst
  · intro c hc
    rw [trim, List.getLast?_reverse] at hc
    exact isBlank_of_mem_head?_skipBlanks hc

/-- Where nothing is left, there was white space alone. -/
theorem Stripped.isBlank_of_mem {cs : List Char} (h : Stripped cs []) {c : Char} (hc : c ∈ cs) :
    isBlank c = true := by
  obtain ⟨before, after, hbefore, hafter, hcs⟩ := h.around
  rw [hcs, List.append_nil] at hc
  exact (List.mem_append.mp hc).elim (hbefore c) (hafter c)

theorem trim_eq_nil {cs : List Char} (h : ∀ c ∈ cs, isBlank c = true) : trim cs = [] := by
  have hfront : skipBlanks cs = [] := by
    have hskip : skipBlanks (cs ++ []) = [] := skipBlanks_append_of_head h nofun
    rwa [List.append_nil] at hskip
  rw [trim, hfront]
  rfl

/-- There is one way to strip a text of its blanks: trimming finds it. -/
theorem Stripped.trim_eq {cs core : List Char} (h : Stripped cs core) : trim cs = core := by
  cases core with
  | nil => exact trim_eq_nil fun c hc => h.isBlank_of_mem hc
  | cons c others =>
    obtain ⟨before, after, hbefore, hafter, hcs⟩ := h.around
    have hfront : skipBlanks cs = c :: others ++ after := by
      rw [hcs, List.append_assoc]
      exact skipBlanks_append_of_head hbefore h.head
    -- seen from its end, the text is again white space before something else
    have hback : skipBlanks (c :: others ++ after).reverse = (c :: others).reverse := by
      rw [List.reverse_append]
      apply skipBlanks_append_of_head
      · intro d hd
        exact hafter d (List.mem_reverse.mp hd)
      · rw [List.head?_reverse]
        exact h.last
    rw [trim, hfront, hback, List.reverse_reverse]

/-- Trimming leaves a text without the white space at its ends. -/
theorem trim_eq_iff {cs core : List Char} : trim cs = core ↔ Stripped cs core := by
  constructor
  · rintro rfl
    exact trim_stripped cs
  · exact Stripped.trim_eq

/-- A text is more than white space if it has some other character. -/
theorem allBlank_eq_false_iff {s : String} :
    allBlank s = false ↔ ∃ c ∈ s.toList, isBlank c = false := by
  have hnil : trim s.toList = [] ↔ ∀ c ∈ s.toList, isBlank c = true := by
    constructor
    · intro h c hc
      exact (trim_eq_iff.mp h).isBlank_of_mem hc
    · exact trim_eq_nil
  rw [allBlank, List.isEmpty_eq_false_iff, ne_eq, hnil]
  simp

end SqlClient.Text
