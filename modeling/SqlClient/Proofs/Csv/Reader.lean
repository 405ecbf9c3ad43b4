import SqlClient.Table.Csv

namespace SqlClient.Csv

/-!
# Reading comma-separated values

A reader of the format that knows nothing of who wrote the text.  A comma ends a field and
a line end a record; a field may stand in quotes, and then commas and line ends belong to
it, and two quotes stand for one.  An empty line is no record.

* `Reader`, `Reader.next` — a reader at work, and how it takes the next character.
* `read` — the records of a text.
* `Reader.foldlM_quote`, `Reader.foldlM_joined` — a field and the fields of a line are read
  as what they were written for.
* `read_flatten_record` — so are any number of lines.
-/

/-! ### The reader -/

/-- Where a reader stands. -/
inductive Place where
  /-- at the start of a line -/
  | line
  /-- behind a comma -/
  | comma
  /-- in a field without quotes -/
  | bare
  /-- in quotes -/
  | quoted
  /-- behind a quote in quotes, which ends the field unless it is doubled -/
  | unquoted
deriving DecidableEq, Repr

/-- A reader at work. -/
structure Reader where
  /-- the records it is through with -/
  records : List (List (List Char))
  /-- the fields of the record it is in -/
  fields : List (List Char)
  /-- what it has read of the field it is in -/
  field : List Char
  place : Place
deriving DecidableEq, Repr

namespace Reader

/-- A reader that has read these records and is at the start of a line. -/
def ofRecords (records : List (List (List Char))) : Reader := ⟨records, [], [], .line⟩

/-- A character of the field. -/
def push (r : Reader) (c : Char) (place : Place) : Reader :=
  { r with field := r.field ++ [c], place := place }

/-- The field has ended and another one follows. -/
def endField (r : Reader) : Reader :=
  { r with fields := r.fields ++ [r.field], field := [], place := .comma }

/-- The field has ended and its record with it. -/
def endRecord (r : Reader) : Reader := ofRecords (r.records ++ [r.fields ++ [r.field]])

/-- A character that can only end a field. -/
def separate (r : Reader) (c : Char) : Option Reader :=
  if c = ',' then some r.endField else if c = '\n' then some r.endRecord else none

/-- A character outside quotes.  There is no quote in the middle of a field; nor is there a
    carriage return, which one reader takes for a line end and the next for text. -/
def plain (r : Reader) (c : Char) : Option Reader :=
  if c = '"' ∨ c = '\r' then none
  else if c = ',' ∨ c = '\n' then r.separate c
  else some (r.push c .bare)

/-- Take the next character; none if it cannot stand there. -/
def next (r : Reader) (c : Char) : Option Reader :=
  match r.place with
  | .line =>
    if c = '\n' then some r
    else if c = '"' then some { r with place := .quoted }
    else r.plain c
  | .comma => if c = '"' then some { r with place := .quoted } else r.plain c
  | .bare => r.plain c
  | .quoted => if c = '"' then some { r with place := .unquoted } else some (r.push c .quoted)
  | .unquoted => if c = '"' then some (r.push c .quoted) else r.separate c

/-- The records at the end of the text, which may end a record like a line end but cannot
    stand in quotes. -/
def finish (r : Reader) : Option (List (List (List Char))) :=
  match r.place with
  | .line => some r.records
  | .quoted => none
  | _ => some r.endRecord.records

end Reader

/-- The records of a text; none if it is not in the format. -/
def read (text : List Char) : Option (List (List (List Char))) :=
  (text.foldlM Reader.next (.ofRecords [])).bind Reader.finish

/-! ### Fields -/

theorem joined_cons_cons (field second : List Char) (others : List (List Char)) :
    joined (field :: second :: others) = quote field ++ ',' :: joined (second :: others) := rfl

namespace Reader

variable {r : Reader}

/-- In quotes, what was escaped is read as it was, up to the quote at the end. -/
private theorem foldlM_escaped (h : r.place = .quoted) (field : List Char) :
    ((field.flatMap fun c => if c = '"' then ['"', '"'] else [c]) ++ ['"']).foldlM next r =
      some { r with field := r.field ++ field, place := .unquoted } := by
  induction field generalizing r with
  | nil => simp [next, h]
  | cons c rest ih =>
    -- either way the reader is back in quotes with one more character
    have hpush := ih (r := r.push c .quoted) rfl
    by_cases hc : c = '"'
    · subst hc
      simpa [next, h, push] using hpush
    · simpa [next, h, hc, push] using hpush

/-- Outside quotes, characters that need none are read as they are. -/
private theorem foldlM_bare (h : r.place = .bare) {field : List Char}
    (hfield : ∀ c ∈ field, isSpecial c = false) :
    field.foldlM next r = some { r with field := r.field ++ field } := by
  induction field generalizing r with
  | nil => simp
  | cons c rest ih =>
    obtain ⟨hc, hrest⟩ := List.forall_mem_cons.mp hfield
    have hnext : r.next c = some (r.push c .bare) := by
      simp [isSpecial] at hc
      simp [next, h, plain, hc]
    rw [List.foldlM_cons, hnext]
    simpa [push, h] using ih (r := r.push c .bare) rfl hrest

/-- **One field.** A reader at the start of a field reads the field that was written, and
    is at a place where it may end.  It is still at the start of the line only if there was
    nothing to read. -/
theorem foldlM_quote (hempty : r.field = []) (hstart : r.place = .line ∨ r.place = .comma)
    (field : List Char) :
    ∃ place, (quote field).foldlM next r = some { r with field := field, place := place } ∧
      place ≠ .quoted ∧ (place = .line → quote field = []) := by
  unfold quote
  split
  · -- a field in quotes: the quote opens it, and the closing one is read with the field
    refine ⟨.unquoted, ?_, by simp, by simp⟩
    have hopen : r.next '"' = some { r with place := .quoted } := by
      rcases hstart with h | h <;> simp [next, h]
    have hinside := foldlM_escaped (r := { r with place := .quoted }) rfl field
    rw [List.cons_append, List.foldlM_cons, hopen]
    simpa [hempty] using hinside
  · rename_i hplain
    -- a bare field: no character of it ends it
    have hspecial : ∀ c ∈ field, isSpecial c = false := by simpa using hplain
    cases field with
    | nil =>
      refine ⟨r.place, ?_, ?_, fun _ => rfl⟩
      · rw [List.foldlM_nil, ← hempty]
        rfl
      · rcases hstart with h | h <;> simp [h]
    | cons c rest =>
      obtain ⟨hc, hrest⟩ := List.forall_mem_cons.mp hspecial
      have hnext : r.next c = some (r.push c .bare) := by
        simp [isSpecial] at hc
        rcases hstart with h | h <;> simp [next, h, plain, hc]
      refine ⟨.bare, ?_, by simp, by simp⟩
      rw [List.foldlM_cons, hnext]
      simpa [push, hempty] using foldlM_bare (r := r.push c .bare) rfl hrest

/-- Where a field may end, a comma ends it, and the next field of the record begins. -/
private theorem next_comma (h : r.place ≠ .quoted) : r.next ',' = some r.endField := by
  unfold next
  cases hplace : r.place <;> simp_all [plain, separate]

/-- So does a line end, unless nothing was read of the line. -/
private theorem next_newline (h : r.place ≠ .quoted) (hline : r.place ≠ .line) :
    r.next '\n' = some r.endRecord := by
  unfold next
  cases hplace : r.place <;> simp_all [plain, separate]

/-! ### Records -/

/-- **The fields of a line.** A reader at the start of a field reads the fields that were
    written as one record, if the line has a character. -/
theorem foldlM_joined {fields : List (List Char)} (hfields : fields ≠ [])
    (hempty : r.field = []) (hstart : r.place = .line ∨ r.place = .comma)
    (hline : r.place = .line → joined fields ≠ []) :
    (joined fields ++ ['\n']).foldlM next r =
      some (ofRecords (r.records ++ [r.fields ++ fields])) := by
  induction fields generalizing r with
  | nil => exact absurd rfl hfields
  | cons field rest ih =>
    obtain ⟨place, hread, hquoted, hnothing⟩ := foldlM_quote hempty hstart field
    cases rest with
    | nil =>
      have hplace : place ≠ .line := by
        intro hplace
        -- then the reader has not moved, and the line would have no character
        have hnone : quote field = [] := hnothing hplace
        have hr : r.place = .line := by
          rw [hnone] at hread
          have hsame : r = { r with field := field, place := place } := by simpa using hread
          rw [hsame]
          exact hplace
        exact hline hr hnone
      rw [joined, List.foldlM_append, hread]
      simp [next_newline, hquoted, hplace, endRecord]
    | cons second others =>
      rw [joined_cons_cons, List.append_assoc, List.foldlM_append, hread]
      simp only [List.cons_append, List.foldlM_cons, Option.bind_eq_bind, Option.bind_some]
      rw [next_comma (by simpa using hquoted)]
      -- behind the comma the rest is read in the same way, whether or not it is empty
      have hrest := ih (r := endField { r with field := field, place := place }) (by simp) rfl
        (.inr rfl) (by simp [endField])
      simpa [endField] using hrest

end Reader

/-- Only a single field without a character makes a line without one. -/
private theorem joined_eq_nil {fields : List (List Char)} (hfields : fields ≠ [])
    (h : joined fields = []) : fields = [[]] := by
  cases fields with
  | nil => exact absurd rfl hfields
  | cons field rest =>
    cases rest with
    | nil =>
      have hquote : quote field = [] := h
      unfold quote at hquote
      split at hquote
      · simp at hquote
      · rw [hquote]
    | cons second others => simp [joined_cons_cons] at h

/-- **One line.** A record that was written is read as its fields, be they in quotes or bare, and
    the line break ends it. -/
theorem foldlM_record (records : List (List (List Char))) {fields : List (List Char)}
    (hfields : fields ≠ []) :
    (record fields).foldlM Reader.next (.ofRecords records) =
      some (.ofRecords (records ++ [fields])) := by
  unfold record
  by_cases hnone : joined fields = []
  · -- two quotes are read as an empty field, where an empty line would be no record
    obtain rfl := joined_eq_nil hfields hnone
    rfl
  · simp only [if_neg hnone]
    exact Reader.foldlM_joined hfields rfl (.inl rfl) fun _ => hnone

/-- **All lines.** Lines are read as the records they were written for. -/
theorem read_flatten_record {records : List (List (List Char))}
    (h : ∀ fields ∈ records, fields ≠ []) :
    read (records.map record).flatten = some records := by
  have hall : ∀ before : List (List (List Char)),
      (records.map record).flatten.foldlM Reader.next (.ofRecords before) =
        some (.ofRecords (before ++ records)) := by
    induction records with
    | nil => simp
    | cons fields rest ih =>
      intro before
      obtain ⟨hfields, hrest⟩ := List.forall_mem_cons.mp h
      rw [List.map_cons, List.flatten_cons, List.foldlM_append, foldlM_record before hfields]
      simpa using ih hrest (before ++ [fields])
  rw [read, hall []]
  rfl

/-- An empty line is no record, which is why a line of one empty field is written in quotes. -/
example : read "\n".toList = some [] ∧ read "\"\"\n".toList = some [[[]]] := by decide

end SqlClient.Csv
