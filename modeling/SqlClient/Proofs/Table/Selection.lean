import Mathlib.Data.List.FinRange
import SqlClient.Proofs.Table.Lookup

namespace SqlClient

/-!
# Some of the rows, in any order

Which rows a result set has decides what its columns are made of, but not in which order they
come, and fewer rows never ask for more.

* `ResultSet.pick` — some of the rows of a result set, in any order.
* `ColumnType.AtMost`, `Narrowest.atMost` — the types that columns of fewer values can have.
* `Value.Narrows`, `IsCell.narrows` — a value as a cell of such a type.
* `materialize_picked_rows` — the table that is made of some of the rows.
-/

/-- The result set with these of its rows, in this order. -/
def ResultSet.pick (r : ResultSet) (order : List (Fin r.rows.length)) : ResultSet :=
  { r with rows := order.map r.rows.get }

/-- A type, and the types for some of the values of its columns: with no value left there is
    none, and of integers among doubles the integers may be all that is left. -/
inductive ColumnType.AtMost : ColumnType → ColumnType → Prop where
  | refl (T : ColumnType) : AtMost T T
  | null (T : ColumnType) : AtMost .null T
  | int64 : AtMost .int64 .float64

/-- A cell, and what it may be in a column of fewer values: itself, or the integer that a
    double holds. -/
inductive Value.Narrows : Value → Value → Prop where
  | refl (v : Value) : Narrows v v
  | held (i : Int64) (x : Binary64) (h : x.Holds i.toInt) : Narrows (.int i) (.float x)

/-! ### Columns of fewer values -/

/-- Where fewer types occur, the narrowest is no wider. -/
theorem Narrowest.atMost {types types' : List ColumnType} {T T' : ColumnType}
    (hsub : types' ⊆ types) (h' : Narrowest types' T') (h : Narrowest types T) :
    T'.AtMost T := by
  cases h' with
  | nothing => exact .null T
  | uniform _ _ hne hall' =>
    -- the type occurs in both lists
    obtain ⟨t, ht⟩ := List.exists_mem_of_ne_nil _ hne
    obtain rfl := hall' t ht
    cases h with
    | nothing => exact absurd (hsub ht) List.not_mem_nil
    | uniform _ _ _ hall =>
      obtain rfl := hall t (hsub ht)
      exact .refl t
    | mixed _ _ _ hall =>
      rcases hall t (hsub ht) with rfl | rfl
      · exact .int64
      · exact .refl _
  | mixed _ _ hfloat _ =>
    obtain ⟨rfl, _⟩ := (Narrowest.float64_iff (hsub hfloat)).mp h
    exact .refl _

namespace ColumnMeta

variable {m : ColumnMeta} {values values' : List Value} {T T' : ColumnType}

/-- A column of fewer values has a type that is no wider, and the same one if it is declared. -/
theorem HasType.atMost (hsub : values' ⊆ values) (h' : m.HasType values' T')
    (h : m.HasType values T) :
    T'.AtMost T ∧ (m.declared.bind ColumnType.ofDeclared? ≠ none → T' = T) := by
  rcases h' with h' | ⟨hnone, h'⟩
  · rcases h with h | ⟨hnone, _⟩
    · obtain rfl : T' = T := Option.some.inj (h'.symm.trans h)
      exact ⟨.refl T', fun _ => rfl⟩
    · rw [hnone] at h'
      exact absurd h' nofun
  · rcases h with h | ⟨_, h⟩
    · rw [hnone] at h
      exact absurd h nofun
    · refine ⟨h'.atMost (fun t ht => ?_) h, fun hsome => absurd hnone hsome⟩
      obtain ⟨v, hv, hvt⟩ := mem_naturalTypes.mp ht
      exact mem_naturalTypes.mpr ⟨v, hsub hv, hvt⟩

/-- The type of a column depends on which values occur in it, and on nothing else about them. -/
theorem HasType.of_mem_iff (hmem : ∀ v, v ∈ values' ↔ v ∈ values) (h : m.HasType values T) :
    m.HasType values' T := by
  refine h.imp_right fun ⟨hnone, hnarrowest⟩ => ⟨hnone, hnarrowest.of_mem_iff fun t => ?_⟩
  simp only [mem_naturalTypes, hmem]

/-- A column has one type at most, be it declared or inferred. -/
theorem HasType.unique (h : m.HasType values T) (h' : m.HasType values T') : T = T' :=
  Except.ok.inj ((type_eq_ok.mpr h).symm.trans (type_eq_ok.mpr h'))

/-- Fewer values fit a column that all of them fit. -/
theorem Fits.of_subset (hsub : values' ⊆ values) (h : m.Fits values) : m.Fits values' := by
  unfold Fits at h ⊢
  split at h
  · exact fun v hv => h v (hsub hv)
  · rcases h with ⟨kind, hkind⟩ | hnumbers
    · exact .inl ⟨kind, fun v hv => hkind v (hsub hv)⟩
    · exact .inr fun v hv => hnumbers v (hsub hv)

end ColumnMeta

/-- A value that is a cell of a column is a cell of a column of fewer values too, the same or one
    that it widens to. -/
theorem IsCell.narrows {v w w' : Value} {T T' : ColumnType} (hT : T'.AtMost T)
    (h' : IsCell T' v w') (h : IsCell T v w) : w'.Narrows w := by
  cases hT with
  | refl =>
    obtain rfl := h'.unique h
    exact .refl w'
  | null =>
    -- no value but null is a cell of a column without a type
    rcases h' with ⟨rfl, rfl⟩ | hconverts
    · rw [h.null_iff.mpr rfl]
      exact .refl _
    · exact nomatch hconverts
  | int64 =>
    rcases h' with ⟨rfl, rfl⟩ | hconverts
    · rw [h.null_iff.mpr rfl]
      exact .refl _
    · cases hconverts with
      | int i =>
        rcases h with ⟨hnull, _⟩ | hfloat
        · exact absurd hnull nofun
        · cases hfloat with
          | heldInt _ x hheld => exact .held i x hheld

/-! ### Picked rows -/

namespace ResultSet

variable {r : ResultSet} {order : List (Fin r.rows.length)}

theorem mem_rows_of_mem_pick {row : Row} (h : row ∈ (r.pick order).rows) : row ∈ r.rows := by
  obtain ⟨i, _, rfl⟩ := List.mem_map.mp h
  exact List.getElem_mem i.isLt

/-- Picked rows are as wide as they were. -/
theorem width_pick (hrows : ∀ row ∈ r.rows, row.values.length = r.columns.length)
    (order : List (Fin r.rows.length)) :
    ∀ row ∈ (r.pick order).rows, row.values.length = (r.pick order).columns.length :=
  fun row hrow => hrows row (mem_rows_of_mem_pick hrow)

/-- Picked rows have no values in a column that were not there. -/
theorem columnValues_pick_subset (j : Nat) :
    (r.pick order).columnValues j ⊆ r.columnValues j := by
  intro v hv
  obtain ⟨row, hrow, hvalue⟩ := List.mem_filterMap.mp hv
  exact List.mem_filterMap.mpr ⟨row, mem_rows_of_mem_pick hrow, hvalue⟩

/-- All of the rows have all of the values, in whatever order they come. -/
theorem mem_columnValues_pick_iff (hperm : order.Perm (List.finRange r.rows.length)) (j : Nat)
    (v : Value) : v ∈ (r.pick order).columnValues j ↔ v ∈ r.columnValues j := by
  refine ⟨fun hv => columnValues_pick_subset j hv, fun hv => ?_⟩
  obtain ⟨row, hrow, hvalue⟩ := List.mem_filterMap.mp hv
  obtain ⟨i, hi, rfl⟩ := List.getElem_of_mem hrow
  have hpicked : (⟨i, hi⟩ : Fin r.rows.length) ∈ order := hperm.mem_iff.mpr (List.mem_finRange _)
  exact List.mem_filterMap.mpr ⟨r.rows[i], List.mem_map.mpr ⟨_, hpicked, rfl⟩, hvalue⟩

end ResultSet

/-! ### Columns of picked rows -/

section Columns

variable {r : ResultSet} {order : List (Fin r.rows.length)} {t t' : Table}
  (hmade : r.Makes t.columns) (hmade' : (r.pick order).Makes t'.columns)

include hmade hmade'

/-- What is the same of every column is the same of all of them. -/
theorem map_columns_of_pick {α : Type} {f g : Column → α}
    (h : ∀ (j : Nat) (m : ColumnMeta) (c c' : Column), r.columns[j]? = some m →
      t.columns[j]? = some c → t'.columns[j]? = some c' → f c' = g c) :
    t'.columns.map f = t.columns.map g := by
  apply List.ext_getElem
  · rw [List.length_map, List.length_map, hmade'.length_eq, hmade.length_eq]
    rfl
  · intro j hj' hj
    rw [List.length_map] at hj' hj
    rw [List.getElem_map, List.getElem_map]
    have hm := List.getElem?_eq_getElem (hmade.length_eq ▸ hj)
    exact h j _ _ _ hm (List.getElem?_eq_getElem hj) (List.getElem?_eq_getElem hj')

variable {j : Nat} {m : ColumnMeta} {c c' : Column} (hm : r.columns[j]? = some m)
  (hc : t.columns[j]? = some c) (hc' : t'.columns[j]? = some c')

include hm hc hc'

/-- The type is no wider than it was, and the same where one is declared. -/
private theorem atMost_of_pick :
    c'.type.AtMost c.type ∧ (m.declared.bind ColumnType.ofDeclared? ≠ none → c'.type = c.type) := by
  obtain ⟨_, htype, _⟩ := ColumnMeta.column_eq_ok.mp (hmade.column_eq_ok hm hc)
  obtain ⟨_, htype', _⟩ := ColumnMeta.column_eq_ok.mp (hmade'.column_eq_ok hm hc')
  exact htype'.atMost (ResultSet.columnValues_pick_subset j) htype

/-- If every row is picked, in whatever order, the type of each column is the same. -/
theorem type_eq_of_pick (hperm : order.Perm (List.finRange r.rows.length)) :
    c'.type = c.type := by
  obtain ⟨_, htype, _⟩ := ColumnMeta.column_eq_ok.mp (hmade.column_eq_ok hm hc)
  obtain ⟨_, htype', _⟩ := ColumnMeta.column_eq_ok.mp (hmade'.column_eq_ok hm hc')
  exact htype'.unique (htype.of_mem_iff (ResultSet.mem_columnValues_pick_iff hperm j))

/-- Two cells for one picked row are made of one value. -/
theorem exists_value_of_pick (hrows : ∀ row ∈ r.rows, row.values.length = r.columns.length)
    {k : Nat} {i : Fin r.rows.length} (hk : order[k]? = some i) :
    ∃ v, IsCell c'.type v (c'.get k) ∧ IsCell c.type v (c.get i) := by
  obtain ⟨hj, _⟩ := List.getElem?_eq_some_iff.mp hm
  have hrow : r.rows[i.val]? = some (r.rows.get i) := List.getElem?_eq_getElem i.isLt
  have hpicked : (r.pick order).rows[k]? = some (r.rows.get i) := by
    rw [ResultSet.pick, List.getElem?_map, hk]
    rfl
  have hwidth : j < (r.rows.get i).values.length := by
    rw [hrows _ (List.get_mem _ _)]
    exact hj
  have hv := List.getElem?_eq_getElem hwidth
  exact ⟨_, hmade'.isCell (ResultSet.width_pick hrows order) hpicked hc' hv,
    hmade.isCell hrows hrow hc hv⟩

end Columns

/-! ### Tables of picked rows -/

section Pick

variable {r : ResultSet} (hrows : ∀ row ∈ r.rows, row.values.length = r.columns.length)

include hrows

/-- Some of the rows of a result set make a table, if all of them do. -/
theorem exists_materialize_pick (order : List (Fin r.rows.length))
    (h : ∃ t, materialize r = .ok t) : ∃ t, materialize (r.pick order) = .ok t := by
  rw [exists_materialize_iff hrows] at h
  rw [exists_materialize_iff (ResultSet.width_pick hrows order)]
  intro j m hm
  exact (h j m hm).of_subset (ResultSet.columnValues_pick_subset j)

/-- All of the rows make a table in one order if they do in another. -/
theorem exists_materialize_pick_iff {order : List (Fin r.rows.length)}
    (hperm : order.Perm (List.finRange r.rows.length)) :
    (∃ t, materialize (r.pick order) = .ok t) ↔ ∃ t, materialize r = .ok t := by
  constructor
  · intro h
    rw [exists_materialize_iff (ResultSet.width_pick hrows order)] at h
    rw [exists_materialize_iff hrows]
    intro j m hm
    exact (h j m hm).of_subset fun v => (ResultSet.mem_columnValues_pick_iff hperm j v).mpr
  · exact exists_materialize_pick hrows order

/-- If no row is left out, a picked row has the cells that it had. -/
theorem rowCells_of_pick {order : List (Fin r.rows.length)} {t t' : Table}
    (hperm : order.Perm (List.finRange r.rows.length)) (hmade : r.Makes t.columns)
    (hmade' : (r.pick order).Makes t'.columns) {k : Nat} {i : Fin r.rows.length}
    (hk : order[k]? = some i) : t'.rowCells k = t.rowCells i := by
  apply map_columns_of_pick hmade hmade'
  intro j m c c' hm hc hc'
  obtain ⟨v, hcell', hcell⟩ := exists_value_of_pick hmade hmade' hm hc hc' hrows hk
  rw [type_eq_of_pick hmade hmade' hm hc hc' hperm] at hcell'
  exact hcell'.unique hcell

/-- **Row order and fewer rows.** Rows that make a table make one in any order, and rows that do
    not do so in none.  Let a result set with columns, all its rows as wide as they are many,
    make a table, and pick some of its rows in any order, one or another perhaps more than once.
    They make a table too, with the same names.  If no row is left out and none repeated, the
    types are the same, and the rows are those of the first table in the order of picking.  In
    any case, declared columns keep their types and the types of other columns are no wider;
    and each cell is the one there was, or the integer that the double there holds exactly. -/
theorem materialize_picked_rows (hcolumns : r.columns ≠ []) :
    (∀ order : List (Fin r.rows.length), order.Perm (List.finRange r.rows.length) →
      ((∃ t, materialize (r.pick order) = .ok t) ↔ ∃ t, materialize r = .ok t)) ∧
    ∀ t, materialize r = .ok t → ∀ order : List (Fin r.rows.length),
      ∃ t', materialize (r.pick order) = .ok t' ∧
        t'.columnNames = t.columnNames ∧ t'.rowCount = order.length ∧
        (order.Perm (List.finRange r.rows.length) →
          t'.columnTypes = t.columnTypes ∧
          t'.rows = order.map fun i : Fin r.rows.length => t.rowCells i) ∧
        ∀ (j : Nat) (m : ColumnMeta) (c : Column),
          r.columns[j]? = some m → t.columns[j]? = some c →
          ∃ c', t'.columns[j]? = some c' ∧ c'.type.AtMost c.type ∧
            (m.declared.bind ColumnType.ofDeclared? ≠ none → c'.type = c.type) ∧
            ∀ (k : Nat) (i : Fin r.rows.length), order[k]? = some i →
              (c'.get k).Narrows (c.get i) := by
  constructor
  · intro order hperm
    exact exists_materialize_pick_iff hrows hperm
  · intro t ht order
    obtain ⟨t', ht'⟩ := exists_materialize_pick hrows order ⟨t, ht⟩
    -- each of the two tables is made column by column, of its own rows
    have hmade : r.Makes t.columns := materialize_eq_ok.mp ht
    have hmade' : (r.pick order).Makes t'.columns := materialize_eq_ok.mp ht'
    have hlength : t'.columns.length = t.columns.length :=
      hmade'.length_eq.trans hmade.length_eq.symm
    have hnames : t'.columnNames = t.columnNames :=
      hmade'.columnNames_eq.trans hmade.columnNames_eq.symm
    have hcount : t'.rowCount = order.length := by
      rw [rowCount_of_makes (ResultSet.width_pick hrows order) hcolumns hmade']
      exact List.length_map _
    refine ⟨t', ht', hnames, hcount, ?_, ?_⟩
    · -- where all rows are picked, types and cells are the same
      intro hperm
      constructor
      · apply map_columns_of_pick hmade hmade'
        intro j m c c' hm hc hc'
        exact type_eq_of_pick hmade hmade' hm hc hc' hperm
      · apply List.ext_getElem
        · simp [Table.rows, hcount]
        · intro k hk _
          have hk' : k < order.length := by simpa [Table.rows, hcount] using hk
          simp only [Table.rows, List.getElem_map, List.getElem_range]
          exact rowCells_of_pick hrows hperm hmade hmade' (List.getElem?_eq_getElem hk')
    · intro j m c hm hc
      obtain ⟨hj, _⟩ := List.getElem?_eq_some_iff.mp hc
      have hc' := List.getElem?_eq_getElem (hlength ▸ hj)
      obtain ⟨hatMost, hdeclared⟩ := atMost_of_pick hmade hmade' hm hc hc'
      refine ⟨_, hc', hatMost, hdeclared, ?_⟩
      intro k i hk
      -- both cells are made of one value
      obtain ⟨v, hcell', hcell⟩ := exists_value_of_pick hmade hmade' hm hc hc' hrows hk
      exact hcell'.narrows hatMost hcell

end Pick

namespace SelectionTest

/-- An integer above a double and a null. -/
def numbers : ResultSet where
  columns := [⟨"v", none⟩]
  rows := [⟨["v"], [.int 1]⟩, ⟨["v"], [.float (.ofRatio false 1 2)]⟩, ⟨["v"], [.null]⟩]
  rowsAffected := 3

/-- Without the double. -/
def few : List (Fin numbers.rows.length) := [⟨2, by decide⟩, ⟨0, by decide⟩]

/-- From the bottom to the top. -/
def upward : List (Fin numbers.rows.length) := [⟨2, by decide⟩, ⟨1, by decide⟩, ⟨0, by decide⟩]

end SelectionTest

open SelectionTest in
/-- All rows upward make the rows upward; without the double, the integer is at most the double
    that it was beside the double. -/
theorem materialize_picked_rows_of_integers :
    numbers.columns ≠ [] ∧ (∀ row ∈ numbers.rows, row.values.length = numbers.columns.length) ∧
    upward.Perm (List.finRange _) ∧ ∃ t, materialize numbers = .ok t ∧
      (∃ t', materialize (numbers.pick upward) = .ok t' ∧
        t'.rows = [t.rowCells 2, t.rowCells 1, t.rowCells 0]) ∧
      ∃ t', materialize (numbers.pick few) = .ok t' ∧ t'.rowCount = 2 ∧
        ∀ c, t.columns[0]? = some c → ∃ c', t'.columns[0]? = some c' ∧
          c'.type.AtMost c.type ∧ (c'.get 1).Narrows (c.get 0) := by
  have hcolumns : numbers.columns ≠ [] := by simp [numbers]
  have hrows : ∀ row ∈ numbers.rows, row.values.length = numbers.columns.length := by
    simp [numbers]
  have hupward : upward.Perm (List.finRange _) := by decide
  have hok : (materialize numbers).isOk = true := by decide +kernel
  obtain ⟨t, ht⟩ := exists_eq_ok hok
  have hpicked := (materialize_picked_rows hrows hcolumns).2 t ht
  obtain ⟨all, hall, _, _, hsame, _⟩ := hpicked upward
  obtain ⟨part, hpart, _, hcount, _, hcells⟩ := hpicked few
  refine ⟨hcolumns, hrows, hupward, t, ht, ⟨all, hall, (hsame hupward).2⟩, part, hpart, hcount,
    fun c hc => ?_⟩
  obtain ⟨c', hc', hatMost, _, hnarrows⟩ := hcells 0 _ c rfl hc
  exact ⟨c', hc', hatMost, hnarrows 1 _ rfl⟩

end SqlClient
