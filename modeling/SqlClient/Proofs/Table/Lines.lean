import SqlClient.Proofs.Json.Characters
import SqlClient.Proofs.Json.Reader
import SqlClient.Proofs.Table.OwnRows
import SqlClient.Table.Records

namespace SqlClient

/-!
# Records on lines

The records of a table are written on one line each.  Whatever is in the names and the cells,
no line is broken, and every line is read back as the record it was written from, if there
are no doubles in it.

* `Table.splitOn_toNdjson` — the lines.
* `Value.exact_toRecordField`, `Table.exact_record` — records that are read back.
* `Table.ndjson_lines` — the whole text.
-/

/-! ### Lines -/

/-- Lines with an end each are lines with ends between them, and an empty rest. -/
private theorem flatMap_line_eq_intercalate (lines : List (List Char)) :
    lines.flatMap (· ++ ['\n']) = ['\n'].intercalate (lines ++ [[]]) := by
  induction lines with
  | nil => rfl
  | cons line rest ih =>
    have hne : rest ++ [[]] ≠ [] := by simp
    rw [List.flatMap_cons, ih, List.cons_append, List.intercalate_cons_of_ne_nil hne]

/-- A record is an object, so its line is not empty. -/
private theorem Table.chars_record_ne_nil (t : Table) (row : Nat) : (t.record row).chars ≠ [] := by
  simp [record, Json.objectOf, Json.chars]

/-- The text of a table, taken apart at its line breaks, is the texts of its records, and an empty
    remainder. -/
theorem Table.splitOn_toNdjson (t : Table) :
    t.toNdjson.toList.splitOn '\n' = t.records.map Json.chars ++ [[]] := by
  have htext : t.toNdjson.toList = (t.records.map Json.chars).flatMap (· ++ ['\n']) := by
    rw [toNdjson, String.toList_ofList, List.flatMap_map]
  rw [htext, flatMap_line_eq_intercalate]
  refine List.splitOn_intercalate '\n' ?_ (by simp)
  refine List.forall_mem_append.mpr ⟨fun line hline => ?_, by simp⟩
  obtain ⟨j, _, rfl⟩ := List.mem_map.mp hline
  exact j.newline_not_mem_chars

/-! ### Records without doubles -/

/-- The field of a cell that is no double is read back. -/
theorem Value.exact_toRecordField {v : Value} (h : ∀ x, v ≠ .float x) :
    v.toRecordField.Exact := by
  cases v with
  | null => trivial
  | int i => exact Json.exact_int64 i
  | float x => exact absurd rfl (h x)
  | text s => trivial
  | bool b => trivial
  | timestamp t => trivial
  | blob bytes => exact Json.exact_ofBytes bytes

/-- A record is exact if the cells in it are, so it can be read back. -/
theorem Table.exact_record {t : Table} (h : ∀ c ∈ t.columns, c.type ≠ .float64) (row : Nat) :
    (t.record row).Exact := by
  refine ⟨Json.nodup_map_fst_collect _, Json.membersExact_iff.mpr ?_⟩
  refine Json.forall_mem_collect fun m hm => ?_
  obtain ⟨c, hc, rfl⟩ := List.mem_map.mp hm
  refine Value.exact_toRecordField fun x hx => ?_
  -- a double is a cell of a column of doubles
  rcases c.naturalType?_get row with hnull | htype
  · exact absurd (hx.symm.trans hnull) nofun
  · rw [hx] at htype
    exact h c hc (Option.some.inj htype).symm

/-- **One line a record.** The text of a table is as many lines as the table has rows, and an
    empty rest.  Whatever characters the names and the cells are made of, each line is the
    compact text of its record, and it is neither empty nor broken.  In a table without doubles
    each line is read as the record, its members in the same order. -/
theorem Table.ndjson_lines (t : Table) :
    ∃ records lines, t.toRecords = .array records ∧
      t.toNdjson.toList.splitOn '\n' = lines ++ [[]] ∧
      records.length = t.rowCount ∧ lines.length = t.rowCount ∧
      ∀ (i : Nat) (object : Json) (line : List Char),
        records[i]? = some object → lines[i]? = some line →
        line = object.print.toList ∧ line ≠ [] ∧ '\n' ∉ line ∧
        ((∀ c ∈ t.columns, c.type ≠ .float64) →
          Json.ofText? (String.ofList line) = some object) := by
  refine ⟨t.records, t.records.map Json.chars, rfl, t.splitOn_toNdjson, by simp [records],
    by simp [records], fun i object line hobject hline => ?_⟩
  -- the `i`-th line is the text of the `i`-th record
  have hchars : line = object.chars := by
    rw [List.getElem?_map, hobject] at hline
    exact (Option.some.inj hline).symm
  obtain ⟨row, _, rfl⟩ : ∃ row ∈ List.range t.rowCount, t.record row = object :=
    List.mem_map.mp (List.mem_of_getElem? hobject)
  subst hchars
  refine ⟨?_, t.chars_record_ne_nil row, (t.record row).newline_not_mem_chars, fun hno => ?_⟩
  · rw [Json.print, String.toList_ofList]
  · exact Json.ofText?_print (exact_record hno row)

end SqlClient
