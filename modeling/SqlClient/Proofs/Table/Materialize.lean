import SqlClient.Proofs.Table.Conversion
import SqlClient.Proofs.Table.Inference

namespace SqlClient

/-!
# Tables made of result sets

A result set becomes a table exactly if each of its columns fits, and then the table has
the same columns and in every place the same value, or null for null.

* `ColumnMeta.HasType` — the type of a column: declared, or the narrowest.
* `ColumnMeta.Fits` — the values of a column fit it.
* `ColumnMeta.column_eq_ok`, `ColumnMeta.exists_column_iff` — one column.
* `materialize_iff_fits` — the whole table.
-/

namespace ColumnMeta

/-- The type of a column is the one declared for it, if it settles one, or else the
    narrowest for its values. -/
def HasType (m : ColumnMeta) (values : List Value) (T : ColumnType) : Prop :=
  m.declared.bind ColumnType.ofDeclared? = some T ∨
  m.declared.bind ColumnType.ofDeclared? = none ∧ Narrowest (naturalTypes values) T

/-- The values of a column fit it: all convert to the type declared for it, or, where none
    is, all are of one kind, or all are numbers that doubles hold. -/
def Fits (m : ColumnMeta) (values : List Value) : Prop :=
  match m.declared.bind ColumnType.ofDeclared? with
  | some T => ∀ v ∈ values, v = .null ∨ ∃ w, ConvertsTo T v w
  | none =>
    (∃ kind, ∀ v ∈ values, v = .null ∨ v.kind = kind) ∨
    ∀ v ∈ values, v = .null ∨ (∃ x, v = .float x) ∨
      ∃ (i : Int64) (x : Binary64), v = .int i ∧ x.Holds i.toInt

/-! ### One column -/

theorem type_eq_ok {m : ColumnMeta} {values : List Value} {T : ColumnType} :
    m.type values = .ok T ↔ m.HasType values T := by
  unfold type HasType
  cases m.declared.bind ColumnType.ofDeclared? with
  | some declared => simp
  | none => simp [inferType_eq_ok]

/-- A column is made exactly if it has the name, the type and the cells that it should. -/
theorem column_eq_ok {m : ColumnMeta} {values : List Value} {c : Column} :
    m.column values = .ok c ↔ c.name = m.name ∧ m.HasType values c.type ∧
      List.Forall₂ (IsCell c.type) values c.values.toList := by
  unfold column
  constructor
  · intro h
    cases htype : m.type values with
    | error e =>
      rw [htype] at h
      exact absurd h nofun
    | ok T =>
      -- the type was found first, and then every value has a cell of that type
      rw [htype] at h
      cases hvalues : ColumnValues.ofValues T values with
      | error e =>
        simp only [bind, Except.bind, hvalues] at h
        exact absurd h nofun
      | ok cells =>
        simp only [bind, Except.bind, hvalues] at h
        obtain rfl : (⟨m.name, cells⟩ : Column) = c := Except.ok.inj h
        obtain ⟨hT, hforall⟩ := ColumnValues.ofValues_eq_ok.mp hvalues
        have htype' : (⟨m.name, cells⟩ : Column).type = T := hT
        rw [htype']
        exact ⟨rfl, type_eq_ok.mp htype, hforall⟩
  · rintro ⟨hname, htype, hforall⟩
    have hvalues : ColumnValues.ofValues c.type values = .ok c.values :=
      ColumnValues.ofValues_eq_ok.mpr ⟨rfl, hforall⟩
    rw [type_eq_ok.mpr htype]
    simp only [bind, Except.bind, hvalues, ← hname]

/-- A value is converted to itself in a column of its own kind. -/
theorem convertsTo_natural {v : Value} {T : ColumnType} (h : v.naturalType? = some T) :
    ConvertsTo T v v := by
  cases v with
  | null => exact absurd h nofun
  | int i => cases h; exact .int i
  | float x => cases h; exact .float x
  | text s => cases h; exact .text s
  | bool b => cases h; exact .bool b
  | timestamp t => cases h; exact .timestamp t
  | blob bytes => cases h; exact .blob bytes

theorem naturalType?_eq_none {v : Value} : v.naturalType? = none ↔ v = .null := by
  cases v <;> simp [Value.naturalType?]

/-- Values ask for the same type exactly if they are of the same kind. -/
theorem naturalType?_eq_iff {u v : Value} : u.naturalType? = v.naturalType? ↔ u.kind = v.kind := by
  cases u <;> cases v <;> simp [Value.naturalType?, Value.kind]

theorem mem_naturalTypes {values : List Value} {T : ColumnType} :
    T ∈ naturalTypes values ↔ ∃ v ∈ values, v.naturalType? = some T := by
  simp [naturalTypes]

/-- Where all values are of one kind, the type of that kind is the narrowest. -/
theorem exists_narrowest_of_kind {values : List Value} {kind : ValueKind}
    (h : ∀ v ∈ values, v = .null ∨ v.kind = kind) :
    ∃ T, Narrowest (naturalTypes values) T ∧
      ∀ v ∈ values, v = .null ∨ v.naturalType? = some T := by
  cases htypes : naturalTypes values with
  | nil =>
    refine ⟨.null, .nothing, fun v hv => .inl ?_⟩
    exact naturalType?_eq_none.mp (List.filterMap_eq_nil_iff.mp htypes v hv)
  | cons T rest =>
    -- the first value that is not null settles the type
    have hT : T ∈ naturalTypes values := htypes ▸ List.mem_cons_self
    obtain ⟨first, hfirst, hnatural⟩ := mem_naturalTypes.mp hT
    have hkind : first.kind = kind := (h first hfirst).resolve_left fun hnull => by
      rw [naturalType?_eq_none.mpr hnull] at hnatural
      exact absurd hnatural nofun
    have hall : ∀ v ∈ values, v = .null ∨ v.naturalType? = some T := by
      intro v hv
      refine (h v hv).imp_right fun hv' => ?_
      rw [← hnatural]
      exact naturalType?_eq_iff.mpr (hv'.trans hkind.symm)
    refine ⟨T, htypes ▸ .uniform _ T (List.ne_nil_of_mem hT) fun t ht => ?_, hall⟩
    obtain ⟨v, hv, hvt⟩ := mem_naturalTypes.mp ht
    rcases hall v hv with hnull | hsome
    · rw [naturalType?_eq_none.mpr hnull] at hvt
      exact absurd hvt nofun
    · exact Option.some.inj (hvt.symm.trans hsome)

/-- Numbers that doubles hold have a type, that of integers if no double occurs. -/
private theorem exists_narrowest_of_numbers {values : List Value}
    (h : ∀ v ∈ values, v = .null ∨ (∃ x, v = .float x) ∨
      ∃ (i : Int64) (x : Binary64), v = .int i ∧ x.Holds i.toInt) :
    ∃ T, Narrowest (naturalTypes values) T ∧
      ∀ v ∈ values, v = .null ∨ ∃ w, ConvertsTo T v w := by
  -- one double makes all of them doubles; without one there are integers only
  by_cases hfloat : .float64 ∈ naturalTypes values
  · refine ⟨.float64, (Narrowest.float64_iff hfloat).mpr ⟨rfl, fun t ht => ?_⟩, fun v hv => ?_⟩
    · obtain ⟨v, hv, hvt⟩ := mem_naturalTypes.mp ht
      rcases h v hv with rfl | ⟨x, rfl⟩ | ⟨i, x, rfl, _⟩
      · exact absurd hvt nofun
      · exact .inr (Option.some.inj hvt).symm
      · exact .inl (Option.some.inj hvt).symm
    · rcases h v hv with rfl | ⟨x, rfl⟩ | ⟨i, x, rfl, hheld⟩
      · exact .inl rfl
      · exact .inr ⟨_, .float x⟩
      · exact .inr ⟨_, .heldInt i x hheld⟩
  · have hints : ∀ v ∈ values, v = .null ∨ v.kind = .integer := by
      intro v hv
      rcases h v hv with rfl | ⟨x, rfl⟩ | ⟨i, x, rfl, _⟩
      · exact .inl rfl
      · exact absurd (mem_naturalTypes.mpr ⟨_, hv, rfl⟩) hfloat
      · exact .inr rfl
    obtain ⟨T, hT, hall⟩ := exists_narrowest_of_kind hints
    exact ⟨T, hT, fun v hv => (hall v hv).imp_right fun hv' => ⟨v, convertsTo_natural hv'⟩⟩

/-- Values that have a type and convert to it are of one kind, or numbers that doubles
    hold. -/
private theorem kind_or_numbers_of_narrowest {values : List Value} {T : ColumnType}
    (hT : Narrowest (naturalTypes values) T)
    (h : ∀ v ∈ values, v = .null ∨ ∃ w, ConvertsTo T v w) :
    (∃ kind, ∀ v ∈ values, v = .null ∨ v.kind = kind) ∨
    ∀ v ∈ values, v = .null ∨ (∃ x, v = .float x) ∨
      ∃ (i : Int64) (x : Binary64), v = .int i ∧ x.Holds i.toInt := by
  generalize htypes : naturalTypes values = types at hT
  cases hT with
  | nothing =>
    -- there is no value but null
    refine .inl ⟨.null, fun v hv => .inl ?_⟩
    exact naturalType?_eq_none.mp (List.filterMap_eq_nil_iff.mp htypes v hv)
  | uniform _ _ hne hall =>
    -- the first value that is not null tells the kind of all others
    obtain ⟨t, ht⟩ := List.exists_mem_of_ne_nil _ hne
    obtain ⟨first, hfirst, hnatural⟩ := mem_naturalTypes.mp (htypes ▸ ht)
    refine .inl ⟨first.kind, fun v hv => ?_⟩
    cases hv' : v.naturalType? with
    | none => exact .inl (naturalType?_eq_none.mp hv')
    | some u =>
      have hu : u = T := hall u (htypes ▸ mem_naturalTypes.mpr ⟨v, hv, hv'⟩)
      refine .inr (naturalType?_eq_iff.mp ?_)
      rw [hv', hnatural, hu, hall t ht]
  | mixed _ _ _ _ =>
    -- the integers among the doubles fit, so a double holds each of them
    refine .inr fun v hv => (h v hv).imp_right ?_
    rintro ⟨w, hw⟩
    cases hw with
    | float x => exact .inl ⟨x, rfl⟩
    | heldInt i x hheld => exact .inr ⟨i, x, rfl, hheld⟩

/-- A column fits if it has a type and every value has a cell in it. -/
theorem fits_iff {m : ColumnMeta} {values : List Value} :
    m.Fits values ↔ ∃ T, m.HasType values T ∧ ∀ v ∈ values, ∃ w, IsCell T v w := by
  have hcell : ∀ T v, (∃ w, IsCell T v w) ↔ v = .null ∨ ∃ w, ConvertsTo T v w := by
    intro T v
    simp [IsCell, exists_or]
  simp only [hcell]
  unfold Fits HasType
  cases m.declared.bind ColumnType.ofDeclared? with
  | some T => simp
  | none =>
    simp only [reduceCtorEq, false_or, true_and]
    constructor
    · rintro (⟨kind, h⟩ | h)
      · obtain ⟨T, hT, hall⟩ := exists_narrowest_of_kind h
        exact ⟨T, hT, fun v hv => (hall v hv).imp_right fun hv' => ⟨v, convertsTo_natural hv'⟩⟩
      · exact exists_narrowest_of_numbers h
    · rintro ⟨T, hT, h⟩
      exact kind_or_numbers_of_narrowest hT h

/-- **One column.** A column is made exactly if it fits. -/
theorem exists_column_iff {m : ColumnMeta} {values : List Value} :
    (∃ c, m.column values = .ok c) ↔ m.Fits values := by
  rw [fits_iff]
  constructor
  · rintro ⟨c, hc⟩
    obtain ⟨_, htype, hforall⟩ := column_eq_ok.mp hc
    exact ⟨c.type, htype, exists_forall₂_iff.mp ⟨_, hforall⟩⟩
  · rintro ⟨T, htype, hcells⟩
    obtain ⟨cells, hcells⟩ := ColumnValues.exists_ofValues.mpr hcells
    obtain ⟨rfl, hforall⟩ := ColumnValues.ofValues_eq_ok.mp hcells
    exact ⟨⟨m.name, cells⟩, column_eq_ok.mpr ⟨rfl, htype, hforall⟩⟩

end ColumnMeta

/-! ### All columns -/

/-- The columns of a result set are made one by one, each of its own values. -/
theorem materializeFrom_eq_ok {r : ResultSet} {index : Nat} {metas : List ColumnMeta}
    {columns : List Column} :
    materializeFrom r index metas = .ok columns ↔
      List.Forall₂ (fun p c => p.1.column (r.columnValues p.2) = .ok c) (metas.zipIdx index)
        columns := by
  induction metas generalizing index columns with
  | nil => simp [materializeFrom, eq_comm]
  | cons m rest ih =>
    rw [List.zipIdx_cons, List.forall₂_cons_left_iff]
    simp only [← ih]
    -- the column here and those after it have to be made, one by one
    constructor
    · intro h
      cases hcolumn : m.column (r.columnValues index) with
      | error e => simp [materializeFrom, hcolumn, bind, Except.bind] at h
      | ok c =>
        cases hrest : materializeFrom r (index + 1) rest with
        | error e => simp [materializeFrom, hcolumn, hrest, bind, Except.bind] at h
        | ok others =>
          refine ⟨c, others, rfl, rfl, ?_⟩
          simpa [materializeFrom, hcolumn, hrest, bind, Except.bind, eq_comm] using h
    · rintro ⟨c, others, hcolumn, hrest, rfl⟩
      simp [materializeFrom, hcolumn, hrest, bind, Except.bind]

/-- Columns make a table exactly if they are of one length. -/
theorem Table.of?_eq_ok {columns : List Column} {t : Table} :
    Table.of? columns = .ok t ↔
      t.columns = columns ∧ ∀ c ∈ columns, c.size = commonSize columns := by
  unfold Table.of?
  split
  · rename_i c hfind
    refine iff_of_false nofun ?_
    rintro ⟨_, huniform⟩
    have hc := List.find?_some hfind
    simp [huniform c (List.mem_of_find?_eq_some hfind)] at hc
  · rename_i hfind
    have huniform : ∀ c ∈ columns, c.size = commonSize columns := by simpa using hfind
    constructor
    · intro h
      obtain rfl := Except.ok.inj h
      exact ⟨rfl, huniform⟩
    · rintro ⟨hcolumns, _⟩
      obtain ⟨_, _⟩ := t
      obtain rfl := hcolumns
      rfl

/-- The columns that a result set makes, each of its own values. -/
def ResultSet.Makes (r : ResultSet) (columns : List Column) : Prop :=
  List.Forall₂ (fun p c => p.1.column (r.columnValues p.2) = .ok c) r.columns.zipIdx columns

/-- A result set makes as many columns as it has. -/
theorem ResultSet.Makes.length_eq {r : ResultSet} {columns : List Column}
    (h : r.Makes columns) : columns.length = r.columns.length := by
  have hlength := List.Forall₂.length_eq h
  rw [List.length_zipIdx] at hlength
  exact hlength.symm

/-- Each column that it makes is made of what its rows have in its place. -/
theorem ResultSet.Makes.column_eq_ok {r : ResultSet} {columns : List Column}
    (h : r.Makes columns) {j : Nat} {m : ColumnMeta} {c : Column}
    (hm : r.columns[j]? = some m) (hc : columns[j]? = some c) :
    m.column (r.columnValues j) = .ok c := by
  obtain ⟨hj, rfl⟩ := List.getElem?_eq_some_iff.mp hm
  obtain ⟨hj', rfl⟩ := List.getElem?_eq_some_iff.mp hc
  have hat := List.Forall₂.get h (i := j) (by simpa using hj) hj'
  simpa using hat

/-- The columns that are made keep the names and the order of the result set. -/
theorem ResultSet.Makes.columnNames_eq {r : ResultSet} {columns : List Column}
    (h : r.Makes columns) : columns.map (·.name) = r.columnNames := by
  apply List.ext_getElem
  · simp [columnNames, h.length_eq]
  · intro j hj hj'
    simp only [List.length_map, columnNames] at hj hj'
    have hcolumn := h.column_eq_ok (List.getElem?_eq_getElem hj') (List.getElem?_eq_getElem hj)
    simpa [columnNames] using (ColumnMeta.column_eq_ok.mp hcolumn).1

/-- A table is made of a result set exactly if each of its columns is, and of those columns. -/
theorem materialize_eq_ok {r : ResultSet} {t : Table} :
    materialize r = .ok t ↔ r.Makes t.columns := by
  constructor
  · intro h
    unfold materialize at h
    cases hcolumns : materializeFrom r 0 r.columns with
    | error e => simp [hcolumns, Except.mapError, bind, Except.bind] at h
    | ok columns =>
      have hof : Table.of? columns = .ok t := by
        simpa [hcolumns, Except.mapError, bind, Except.bind] using h
      obtain ⟨rfl, _⟩ := Table.of?_eq_ok.mp hof
      exact materializeFrom_eq_ok.mp hcolumns
  · intro hmade
    unfold materialize
    rw [materializeFrom_eq_ok.mpr hmade]
    simp only [Except.mapError, bind, Except.bind]
    exact Table.of?_eq_ok.mpr ⟨rfl, t.uniform⟩

/-- Where no table is made, some column does not fit, and the error is the first of its
    misfits. -/
theorem materialize_eq_error {r : ResultSet} {e : Error} (h : materialize r = .error e) :
    ∃ misfit, e = .misfit misfit := by
  unfold materialize at h
  cases hcolumns : materializeFrom r 0 r.columns with
  | error misfit =>
    rw [hcolumns] at h
    obtain rfl : Error.misfit misfit = e := Except.error.inj h
    exact ⟨misfit, rfl⟩
  | ok columns =>
    rw [hcolumns] at h
    have hof : Table.of? columns = .error e := h
    unfold Table.of? at hof
    split at hof
    · obtain rfl := Except.error.inj hof
      exact ⟨_, rfl⟩
    · exact absurd hof nofun

/-- The cell in a row is the one made of the value there. -/
theorem isCell_get {c : Column} {values : List Value}
    (hcells : List.Forall₂ (IsCell c.type) values c.values.toList) {i : Nat} {v : Value}
    (hv : values[i]? = some v) : IsCell c.type v (c.get i) := by
  obtain ⟨hi, rfl⟩ := List.getElem?_eq_some_iff.mp hv
  have hi' : i < c.values.toList.length := hcells.length_eq ▸ hi
  have hget : c.get i = c.values.toList[i] := by
    rw [Column.get, ← ColumnValues.getD_toList, List.getElem?_eq_getElem hi', Option.getD_some]
  rw [hget]
  exact hcells.get hi hi'

section Materialize

variable {r : ResultSet} (hrows : ∀ row ∈ r.rows, row.values.length = r.columns.length)

include hrows

/-- In rows of the right width, no column leaves a row out. -/
theorem ResultSet.columnValues_eq_map {j : Nat} (hj : j < r.columns.length) :
    r.columnValues j = r.rows.map fun row => (row.values[j]?).getD .null := by
  rw [columnValues, ← List.filterMap_eq_map]
  refine List.filterMap_congr fun row hrow => ?_
  have hwidth : j < row.values.length := by rw [hrows row hrow]; exact hj
  simp [List.getElem?_eq_getElem hwidth]

/-- The columns of a table that is made are as long as there are rows. -/
private theorem size_of_column {j : Nat} (hj : j < r.columns.length) {m : ColumnMeta} {c : Column}
    (hc : m.column (r.columnValues j) = .ok c) : c.size = r.rows.length := by
  obtain ⟨_, _, hforall⟩ := ColumnMeta.column_eq_ok.mp hc
  have hlength := hforall.length_eq
  rw [r.columnValues_eq_map hrows hj, List.length_map, ColumnValues.length_toList] at hlength
  exact hlength.symm

/-- Columns of the length of the rows are of one length. -/
theorem size_eq_commonSize {columns : List Column} (hmade : r.Makes columns) {c : Column}
    (hc : c ∈ columns) : c.size = r.rows.length ∧ commonSize columns = r.rows.length := by
  have hsize : ∀ c ∈ columns, c.size = r.rows.length := by
    intro c hc
    obtain ⟨j, hj, rfl⟩ := List.getElem_of_mem hc
    have hj' : j < r.columns.length := hmade.length_eq ▸ hj
    have hcolumn := hmade.column_eq_ok (List.getElem?_eq_getElem hj')
      (List.getElem?_eq_getElem hj)
    exact size_of_column hrows hj' hcolumn
  refine ⟨hsize c hc, ?_⟩
  cases columns with
  | nil => exact absurd hc List.not_mem_nil
  | cons first rest => exact hsize first List.mem_cons_self

/-- A table with columns has as many rows as it is made of. -/
theorem rowCount_of_makes (hcolumns : r.columns ≠ []) {t : Table} (hmade : r.Makes t.columns) :
    t.rowCount = r.rows.length := by
  have hpos : 0 < t.columns.length := by
    rw [hmade.length_eq]
    exact List.length_pos_iff.mpr hcolumns
  exact (size_eq_commonSize hrows hmade (List.getElem_mem hpos)).2

/-- Rows of one width leave no column shorter than another, so columns make a table. -/
theorem ResultSet.Makes.exists_materialize {columns : List Column} (hmade : r.Makes columns) :
    ∃ t, materialize r = .ok t := by
  have huniform : ∀ c ∈ columns, c.size = commonSize columns := by
    intro c hc
    obtain ⟨hsize, hcommon⟩ := size_eq_commonSize hrows hmade hc
    rw [hsize, hcommon]
  exact ⟨⟨columns, huniform⟩, materialize_eq_ok.mpr hmade⟩

/-- There is a table exactly if every column of the result set fits its declared or inferred
    type. -/
theorem exists_materialize_iff :
    (∃ t, materialize r = .ok t) ↔
      ∀ (j : Nat) (m : ColumnMeta), r.columns[j]? = some m → m.Fits (r.columnValues j) := by
  have hmade : (∃ t, materialize r = .ok t) ↔ ∃ columns, r.Makes columns := by
    constructor
    · rintro ⟨t, ht⟩
      exact ⟨t.columns, materialize_eq_ok.mp ht⟩
    · rintro ⟨columns, hmade⟩
      exact hmade.exists_materialize hrows
  rw [hmade]
  unfold ResultSet.Makes
  rw [exists_forall₂_iff]
  simp only [ColumnMeta.exists_column_iff, Prod.forall, List.mem_zipIdx_iff_getElem?]
  exact ⟨fun h j m hm => h m j hm, fun h m j hm => h j m hm⟩

/-- **Materialization.** A result set with columns, all its rows as wide as they are many,
    becomes a table exactly if every column fits.  The table has the columns and as many
    rows; each column is of the type declared for it or of the narrowest; and each cell is
    null for null and else what its value is in the column. -/
theorem materialize_iff_fits (hcolumns : r.columns ≠ []) :
    ((∃ t, materialize r = .ok t) ↔
      ∀ (j : Nat) (m : ColumnMeta), r.columns[j]? = some m → m.Fits (r.columnValues j)) ∧
    ∀ t, materialize r = .ok t →
      t.columnNames = r.columnNames ∧ t.rowCount = r.rows.length ∧
      ∀ (j : Nat) (m : ColumnMeta) (column : Column),
        r.columns[j]? = some m → t.columns[j]? = some column →
        m.HasType (r.columnValues j) column.type ∧
        ∀ (i : Nat) (row : Row) (v : Value), r.rows[i]? = some row → row.values[j]? = some v →
          (column.get i = .null ↔ v = .null) ∧
          (v ≠ .null → ConvertsTo column.type v (column.get i)) := by
  refine ⟨exists_materialize_iff hrows, fun t ht => ?_⟩
  have hmade : r.Makes t.columns := materialize_eq_ok.mp ht
  refine ⟨hmade.columnNames_eq, rowCount_of_makes hrows hcolumns hmade,
    fun j m column hm hcolumn => ?_⟩
  have hj : j < r.columns.length := (List.getElem?_eq_some_iff.mp hm).1
  obtain ⟨_, htype, hcells⟩ := ColumnMeta.column_eq_ok.mp (hmade.column_eq_ok hm hcolumn)
  refine ⟨htype, fun i row v hi hv => ?_⟩
  -- no row is too short, so the values of a column are those of the rows, in order
  have hvalue : (r.columnValues j)[i]? = some v := by
    rw [r.columnValues_eq_map hrows hj, List.getElem?_map, hi, Option.map_some, hv]
    rfl
  have hcell : IsCell column.type v (column.get i) := isCell_get hcells hvalue
  refine ⟨hcell.null_iff, fun hne => ?_⟩
  rcases hcell with ⟨hnull, _⟩ | hconverts
  · exact absurd hnull hne
  · exact hconverts

end Materialize

namespace MaterializeTest

/-- A column of booleans as an engine keeps them, and one of integers and doubles mixed. -/
def mixed : ResultSet where
  columns := [⟨"flag", some "BOOLEAN"⟩, ⟨"v", none⟩]
  rows := [⟨["flag", "v"], [.int 1, .int 9007199254740992]⟩,
    ⟨["flag", "v"], [.null, .float (.ofRatio false 1 2)]⟩]
  rowsAffected := 2

end MaterializeTest

open MaterializeTest in
/-- The integer is found again among the doubles, and null where null was. -/
theorem materialize_iff_fits_of_mixed :
    mixed.columns ≠ [] ∧ (∀ row ∈ mixed.rows, row.values.length = mixed.columns.length) ∧
    ∃ t, materialize mixed = .ok t ∧ t.columnNames = ["flag", "v"] ∧ t.rowCount = 2 ∧
      (∀ column, t.columns[0]? = some column → column.get 1 = .null) ∧
      ∀ column, t.columns[1]? = some column →
        ConvertsTo column.type (.int 9007199254740992) (column.get 0) := by
  have hcolumns : mixed.columns ≠ [] := by simp [mixed]
  have hrows : ∀ row ∈ mixed.rows, row.values.length = mixed.columns.length := by
    simp [mixed]
  have hok : (materialize mixed).isOk = true := by decide +kernel
  obtain ⟨t, ht⟩ := exists_eq_ok hok
  obtain ⟨hnames, hcount, hcells⟩ := (materialize_iff_fits hrows hcolumns).2 t ht
  refine ⟨hcolumns, hrows, t, ht, hnames, hcount, fun column hcolumn => ?_,
    fun column hcolumn => ?_⟩
  · exact ((hcells 0 _ column rfl hcolumn).2 1 _ _ rfl rfl).1.mpr rfl
  · exact ((hcells 1 _ column rfl hcolumn).2 0 _ _ rfl rfl).2 nofun

end SqlClient
