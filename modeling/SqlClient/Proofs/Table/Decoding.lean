import SqlClient.Proofs.Table.Lookup
import SqlClient.Proofs.Table.OwnRows
import SqlClient.Proofs.Timestamp.Layout

namespace SqlClient

/-!
# Cells of records

Whoever knows the types of the columns gets the cells back from the records of a table.  Only
doubles that are not finite are lost: they are written as null.

* `ColumnType.decode?` — the cell a field stands for in a column of a type.
* `Value.kept` — a cell as far as records keep it.
* `ColumnType.decode?_toRecordField` — a field stands for the cell it was written from.
* `Table.records_decode` — the records of a table, and what they are decoded to.
-/

/-! ### Fields as cells -/

/-- The byte a number stands for. -/
def Json.byte? : Json → Option UInt8
  | int i => if 0 ≤ i ∧ i < 256 then some (UInt8.ofNat i.toNat) else none
  | _ => none

/-- The cell a field stands for in a column of the type.  Null stands for null in all of
    them; a whole number is a number among doubles too. -/
def ColumnType.decode? (T : ColumnType) (field : Json) : Option Value :=
  match T, field with
  | _, .null => some .null
  | int64, .int i =>
    if Int64.minValue.toInt ≤ i ∧ i ≤ Int64.maxValue.toInt then some (.int (Int64.ofInt i))
    else none
  | float64, .float x => some (.float x)
  | float64, .int i => some (.float (.ofInt i))
  | utf8, .text s => some (.text s)
  | boolean, .bool b => some (.bool b)
  | timestamp, .text s => (Value.text s).asTimestamp?.map .timestamp
  | binary, .array items => (items.mapM Json.byte?).map .blob
  | _, _ => none

/-- A cell as far as records keep it: of a timestamp, what its text tells. -/
def Value.kept : Value → Value
  | float x => if x.isFinite then float x else null
  | v => v.asWritten

/-- Bytes come back from the numbers they are written as. -/
private theorem Json.mapM_byte? (bytes : List UInt8) :
    (bytes.map fun b => Json.int b.toNat).mapM byte? = some bytes := by
  induction bytes with
  | nil => rfl
  | cons b rest ih =>
    have hb : byte? (.int b.toNat) = some b := by
      have hlt : b.toNat < 256 := b.toNat_lt
      have hrange : (0 : Int) ≤ b.toNat ∧ (b.toNat : Int) < 256 := by omega
      rw [byte?, if_pos hrange]
      simp
    rw [List.map_cons, List.mapM_cons, hb, ih]
    rfl

/-- A field stands for the cell it was written from, as far as records keep that, in a column of
    the cell's type. -/
theorem ColumnType.decode?_toRecordField {T : ColumnType} {v : Value}
    (h : v = .null ∨ v.naturalType? = some T) : T.decode? v.toRecordField = some v.kept := by
  rcases h with rfl | h
  · cases T <;> rfl
  · cases v with
    | null => exact absurd h nofun
    | int i =>
      obtain rfl := Option.some.inj h
      -- every number of 64 bits is in range, so it is not taken for a double
      have hrange : Int64.minValue.toInt ≤ i.toInt ∧ i.toInt ≤ Int64.maxValue.toInt :=
        ⟨i.minValue_le_toInt, i.toInt_le⟩
      simp only [Value.toRecordField, decode?, if_pos hrange, Int64.ofInt_toInt]
      rfl
    | float x =>
      obtain rfl := Option.some.inj h
      simp only [Value.toRecordField, Value.kept]
      split <;> rfl
    | text s =>
      obtain rfl := Option.some.inj h
      rfl
    | bool b =>
      obtain rfl := Option.some.inj h
      rfl
    | timestamp t =>
      obtain rfl := Option.some.inj h
      simp only [Value.toRecordField, decode?, Value.asTimestamp?, Timestamp.ofText?_write]
      rfl
    | blob bytes =>
      obtain rfl := Option.some.inj h
      simp only [Value.toRecordField, decode?, Json.ofBytes, Json.mapM_byte?]
      rfl

/-- Cells of one column are told apart by their fields, as far as records keep them. -/
theorem kept_eq_of_toRecordField_eq {T : ColumnType} {v w : Value}
    (hv : v = .null ∨ v.naturalType? = some T) (hw : w = .null ∨ w.naturalType? = some T)
    (h : v.toRecordField = w.toRecordField) : v.kept = w.kept := by
  have hdecoded := ColumnType.decode?_toRecordField hv
  rw [h, ColumnType.decode?_toRecordField hw] at hdecoded
  exact (Option.some.inj hdecoded).symm

/-- A double that is finite is kept, and so is every other value that is not null, as it is
    written. -/
theorem Value.asWritten_eq_of_kept_eq {v w : Value} (hnull : v ≠ .null)
    (hfinite : ∀ x, v = .float x → x.isFinite = true) (h : v.kept = w.kept) :
    v.asWritten = w.asWritten := by
  have hv : v.kept = v.asWritten := by
    cases v with
    | float x => exact if_pos (hfinite x rfl)
    | _ => rfl
  have hwritten : v.asWritten ≠ .null := by
    cases v with
    | null => exact absurd rfl hnull
    | _ => exact nofun
  rw [hv] at h
  -- the other one may be a double that is not kept, but then `v` would be null
  cases w with
  | float x =>
    simp only [kept] at h
    split at h
    · exact h
    · exact absurd h hwritten
  | _ => exact h

/-! ### Records -/

namespace Table

/-- The names in a record: those of the columns, each once, where it came first. -/
private theorem exists_members_record (t : Table) (row : Nat) :
    ∃ members, t.record row = .object members ∧
      members.map (·.1) = t.columnNames.eraseDups := by
  refine ⟨_, rfl, ?_⟩
  rw [Json.map_fst_collect, List.map_map]
  rfl

/-- A field is decoded to the cell of its column, if the column's name is its own. -/
private theorem exists_field_record {t : Table} {c : Column} (hc : c ∈ t.columns)
    (hname : t.columnNames.count c.name = 1) (row : Nat) :
    ∃ field, (t.record row).field? c.name = some field ∧
      c.type.decode? field = some (c.get row).kept := by
  refine ⟨(c.get row).toRecordField, ?_, ColumnType.decode?_toRecordField (c.naturalType?_get row)⟩
  rw [t.field?_record, lastColumn?_eq_column? hname.le, column?_of_mem hc hname]
  rfl

/-- **Records are decoded by the types of the columns.** A table is written as one object a
    row, under the distinct names of its columns, in order of their first occurrence.  Where no
    other column has the name, the type of the column is enough to get each cell back from its
    field, but for doubles that are not finite, which are read as null, and for timestamps in
    which a second runs on out of place, which are read as the next second.  So cells of a column
    that are not null and finite have the fields of other cells only if those are timestamps that
    are written alike. -/
theorem records_decode (t : Table) :
    ∃ records, t.toRecords = .array records ∧ records.length = t.rowCount ∧
      (∀ (i : Nat) (object : Json), records[i]? = some object →
        (∃ members, object = .object members ∧
          members.map (·.1) = t.columnNames.eraseDups) ∧
        ∀ c ∈ t.columns, t.columnNames.count c.name = 1 →
          ∃ field, object.field? c.name = some field ∧
            c.type.decode? field = some (c.get i).kept) ∧
      (∀ c ∈ t.columns, ∀ v ∈ c.values.toList, ∀ w ∈ c.values.toList,
        v ≠ .null → (∀ x, v = .float x → x.isFinite = true) →
        v.toRecordField = w.toRecordField → v.asWritten = w.asWritten) ∧
      ∀ v : Value, v.asWritten = v ↔ ¬ v.Strays := by
  refine ⟨t.records, rfl, by simp [records], fun i object hi => ?_,
    fun c _ v hv w hw hnull hfinite hsame => ?_, fun _ => Value.asWritten_eq_self⟩
  · have hcount : i < t.rowCount := by
      simpa [records] using (List.getElem?_eq_some_iff.mp hi).1
    -- the `i`-th object is the record of the `i`-th row
    obtain rfl : t.record i = object := Option.some.inj ((t.getElem?_records hcount).symm.trans hi)
    exact ⟨t.exists_members_record i, fun c hc hname => exists_field_record hc hname i⟩
  · have hkept := kept_eq_of_toRecordField_eq (ColumnValues.naturalType?_of_mem hv)
      (ColumnValues.naturalType?_of_mem hw) hsame
    exact Value.asWritten_eq_of_kept_eq hnull hfinite hkept

namespace DecodingTest

open LayoutTest

/-- A second that runs on out of place, and the time in the next second that it is written as. -/
def strays : Table := ⟨[⟨"at", .timestamp [some stray, some next]⟩], by decide⟩

end DecodingTest

open DecodingTest LayoutTest in
/-- **What is not told apart.** Two cells that differ and are not null have the same field, which
    is decoded to the second of them. -/
theorem strays_share_record_field :
    strays.columns.map (·.get 0) = [.timestamp stray] ∧
    strays.columns.map (·.get 1) = [.timestamp next] ∧ stray ≠ next ∧
    strays.record 0 = strays.record 1 ∧
    (strays.record 0).field? "at" = some (.text "2024-01-02 03:04:06.500") ∧
    ColumnType.timestamp.decode? (.text "2024-01-02 03:04:06.500") = some (.timestamp next) := by
  have hstray : stray.write = "2024-01-02 03:04:06.500" := by decide +kernel
  have hnext : next.write = "2024-01-02 03:04:06.500" := by decide +kernel
  have hfields : (Value.timestamp stray).toRecordField = .text "2024-01-02 03:04:06.500" ∧
      (Value.timestamp next).toRecordField = .text "2024-01-02 03:04:06.500" := by
    simp only [Value.toRecordField, hstray, hnext, and_self]
  refine ⟨rfl, rfl, by decide, ?_, ?_, ?_⟩
  · show Json.objectOf [("at", (Value.timestamp stray).toRecordField)] =
      Json.objectOf [("at", (Value.timestamp next).toRecordField)]
    rw [hfields.1, hfields.2]
  · show some (Value.timestamp stray).toRecordField = _
    rw [hfields.1]
  · have hread := Timestamp.ofText?_write next
    rw [hnext, show next.asWritten = next by decide] at hread
    simp only [ColumnType.decode?, Value.asTimestamp?, hread, Option.map_some]

end Table

end SqlClient
