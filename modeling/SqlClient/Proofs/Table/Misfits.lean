import SqlClient.Proofs.Table.Materialize

namespace SqlClient

/-!
# The first misfit of a result set

A result set that makes no table is refused for one value.  Columns are tried from left to
right, and each is read twice, once for its type and once for its cells; so a column of mixed
kinds is refused before any of its values is converted.

* `FirstUnfit` — the first value that does not convert to a type.
* `Clashes` — a value whose kind conflicts with the type inferred from the values above it.
* `ColumnMeta.FirstMisfit` — the value that a column is refused for, and what is said of it.
* `ColumnMeta.column_eq_error` — one column.
* `materialize_first_misfit` — the whole result set.
-/

/-! ### Where a conversion ends -/

/-- The first value of a column that does not convert to a type. -/
structure FirstUnfit (T : ColumnType) (values : List Value) (row : Nat) (v : Value) : Prop where
  value : values[row]? = some v
  ne_null : v ≠ .null
  unfit : ∀ w, ¬ ConvertsTo T v w
  above : ∀ k < row, ∀ u, values[k]? = some u → u = .null ∨ ∃ w, ConvertsTo T u w

/-- A value that converts may be put on top: the first that does not fit stays the same, a row
    further down. -/
theorem FirstUnfit.cons {T : ColumnType} {values : List Value} {row : Nat} {u v : Value}
    (hu : u = .null ∨ ∃ w, ConvertsTo T u w) (h : FirstUnfit T values row v) :
    FirstUnfit T (u :: values) (row + 1) v where
  value := h.value
  ne_null := h.ne_null
  unfit := h.unfit
  above k hk u' hu' := by
    cases k with
    | zero =>
      obtain rfl := Option.some.inj hu'
      exact hu
    | succ k => exact h.above k (by omega) u' hu'

/-- A conversion ends at the first value that does not fit, from whatever row on. -/
theorem Reads.firstUnfit {α : Type} {T : ColumnType} {convert : Value → Option α}
    {wrap : α → Value} (h : Reads T convert wrap) {start row : Nat} {values : List Value}
    {v : Value} (herror : convertFrom convert start values = .error (row, v)) :
    ∃ k, row = start + k ∧ FirstUnfit T values k v := by
  induction values generalizing start with
  | nil => cases herror
  | cons u rest ih =>
    -- past a value that fits, the error is that of the values below it
    have hbelow : ∀ {cell : Option α}, (u = .null ∨ ∃ w, ConvertsTo T u w) →
        (convertFrom convert (start + 1) rest).map (cell :: ·) = .error (row, v) →
        ∃ k, row = start + k ∧ FirstUnfit T (u :: rest) k v := by
      intro cell hu hmap
      cases hrest : convertFrom convert (start + 1) rest with
      | ok cells =>
        rw [hrest] at hmap
        cases hmap
      | error e =>
        rw [hrest] at hmap
        obtain rfl : e = (row, v) := Except.error.inj hmap
        obtain ⟨k, hk, hfirst⟩ := ih hrest
        exact ⟨k + 1, by omega, hfirst.cons hu⟩
    simp only [convertFrom] at herror
    split at herror
    · rename_i hnull
      exact hbelow (.inl (Value.isNull_iff.mp hnull)) herror
    · rename_i hvalue
      split at herror
      · rename_i a ha
        exact hbelow (.inr ⟨_, (h.converts u a).mp ha⟩) herror
      · rename_i hnone
        obtain ⟨rfl, rfl⟩ : start = row ∧ u = v := by simpa using herror
        refine ⟨0, rfl, rfl, fun hnull => hvalue (Value.isNull_iff.mpr hnull), ?_, ?_⟩
        · intro w hw
          obtain ⟨a, rfl⟩ := h.wrapped u w hw
          rw [(h.converts u a).mpr hw] at hnone
          cases hnone
        · intro k hk
          exact absurd hk k.not_lt_zero

/-- Where values are not made into a column, the complaint is about the first of them that does
    not fit. -/
theorem ColumnValues.ofValues_eq_error {T : ColumnType} {values : List Value} {row : Nat}
    {v : Value} (herror : ofValues T values = .error (row, v)) : FirstUnfit T values row v := by
  obtain ⟨α, convert, wrap, column, hreads, _, _, _, heq⟩ := ofValues_eq_map T
  rw [heq] at herror
  cases hconvert : convertFrom convert 0 values with
  | ok cells =>
    rw [hconvert] at herror
    exact absurd herror nofun
  | error e =>
    rw [hconvert] at herror
    obtain rfl : e = (row, v) := Except.error.inj herror
    obtain ⟨k, hk, hfirst⟩ := hreads.firstUnfit hconvert
    rwa [hk, Nat.zero_add]

/-! ### Where inference ends -/

/-- The kind of a value conflicts with a type: its own type is another, and not both are those
    of numbers.  While no type is known, nothing conflicts. -/
def Value.Conflicts (v : Value) (T : ColumnType) : Prop :=
  T ≠ .null ∧ ∃ t, v.naturalType? = some t ∧ t ≠ T ∧ ¬ (t.isNumeric ∧ T.isNumeric)

/-- A value whose kind conflicts with the type inferred from the values above it. -/
structure Clashes (values : List Value) (row : Nat) (v : Value) (T : ColumnType) : Prop where
  value : values[row]? = some v
  inferred : Narrowest (naturalTypes (values.take row)) T
  conflicts : v.Conflicts T

/-- Types that conflict are those that no type holds both of. -/
theorem ColumnType.join?_eq_none {T t : ColumnType} :
    T.join? t = none ↔ t ≠ T ∧ ¬ (t.isNumeric ∧ T.isNumeric) := by
  cases T <;> cases t <;> decide

/-- No type is known as long as there are no values but null. -/
theorem Narrowest.ne_null_iff {values : List Value} {T : ColumnType}
    (h : Narrowest (naturalTypes values) T) : T ≠ .null ↔ naturalTypes values ≠ [] := by
  constructor
  · intro hT hnil
    rw [hnil, Narrowest.nil_iff] at h
    exact hT h
  · rintro hne rfl
    generalize htypes : naturalTypes values = types at h hne
    cases h with
    | nothing => exact hne rfl
    | uniform _ _ _ hall =>
      obtain ⟨t, ht⟩ := List.exists_mem_of_ne_nil _ hne
      obtain rfl := hall t ht
      -- no value asks for the type of null
      obtain ⟨v, _, hv⟩ := ColumnMeta.mem_naturalTypes.mp (htypes ▸ ht)
      cases v <;> simp [Value.naturalType?] at hv

/-- One more value adds its type to those before it. -/
private theorem naturalTypes_take_add_one {values : List Value} {row : Nat} {v : Value}
    {t : ColumnType}
    (hv : values[row]? = some v) (ht : v.naturalType? = some t) :
    naturalTypes (values.take (row + 1)) = naturalTypes (values.take row) ++ [t] := by
  rw [List.take_add_one, hv, naturalTypes, List.filterMap_append]
  simp [naturalTypes, ht]

/-- Values with a clash among them have no narrowest type, so no column is made of them. -/
theorem Clashes.not_narrowest {values : List Value} {row : Nat} {v : Value} {T : ColumnType}
    (h : Clashes values row v T) {count : Nat} (hcount : row < count) (U : ColumnType) :
    ¬ Narrowest (naturalTypes (values.take count)) U := by
  intro hU
  obtain ⟨hT, t, ht, hconflict⟩ := h.conflicts
  have hsub : naturalTypes (values.take (row + 1)) ⊆ naturalTypes (values.take count) :=
    ((List.take_sublist_take_left hcount).filterMap _).subset
  obtain ⟨U', hU'⟩ := hU.exists_of_subset hsub
  -- up to the clash, there is the type of the values above it and that of its own value
  rw [naturalTypes_take_add_one h.value ht,
    h.inferred.append_iff (h.inferred.ne_null_iff.mp hT), Narrowest.join_iff] at hU'
  obtain ⟨joined, hjoined, _⟩ := hU'
  rw [ColumnType.join?_eq_none.mpr hconflict] at hjoined
  exact absurd hjoined nofun

/-- Inference ends at a value that no type holds together with the type of those above it, of
    which one may be known before the first row. -/
theorem inferFrom_eq_error {column : String} {start : Nat} {seen : Option ColumnType}
    {values : List Value} {misfit : Misfit}
    (h : inferFrom column start seen values = .error misfit) :
    ∃ row v t T, misfit = .mixture column (start + row) v.kind T ∧ values[row]? = some v ∧
      v.naturalType? = some t ∧ T.join? t = none ∧
      seen.toList ++ naturalTypes (values.take row) ≠ [] ∧
      Narrowest (seen.toList ++ naturalTypes (values.take row)) T := by
  induction values generalizing start seen with
  | nil => cases h
  | cons u rest ih =>
    -- past a value that has a type with those above it, the error is that of the values below
    have hbelow : ∀ {next : Option ColumnType},
        (∀ row T, next.toList ++ naturalTypes (rest.take row) ≠ [] ∧
            Narrowest (next.toList ++ naturalTypes (rest.take row)) T →
          seen.toList ++ naturalTypes (u :: rest.take row) ≠ [] ∧
            Narrowest (seen.toList ++ naturalTypes (u :: rest.take row)) T) →
        inferFrom column (start + 1) next rest = .error misfit →
        ∃ row v t T, misfit = .mixture column (start + row) v.kind T ∧
          (u :: rest)[row]? = some v ∧ v.naturalType? = some t ∧ T.join? t = none ∧
          seen.toList ++ naturalTypes ((u :: rest).take row) ≠ [] ∧
          Narrowest (seen.toList ++ naturalTypes ((u :: rest).take row)) T := by
      intro next htypes hrest
      obtain ⟨row, v, t, T, rfl, hv, ht, hjoin, hknown⟩ := ih hrest
      have hshift : start + 1 + row = start + (row + 1) := by omega
      exact ⟨row + 1, v, t, T, by rw [hshift], hv, ht, hjoin, htypes row T hknown⟩
    simp only [inferFrom] at h
    split at h
    · rename_i hu
      refine hbelow (fun row T hknown => ?_) h
      rwa [naturalTypes_cons_of_none hu]
    · rename_i first hu
      refine hbelow (fun row T hknown => ?_) h
      rwa [naturalTypes_cons_of_some hu]
    · rename_i next current hu
      split at h
      · rename_i joined hjoined
        refine hbelow (fun row T hknown => ?_) h
        rw [naturalTypes_cons_of_some hu]
        exact ⟨List.cons_ne_nil _ _, Narrowest.join_iff.mpr ⟨joined, hjoined, hknown.2⟩⟩
      · rename_i hnone
        obtain rfl := Except.error.inj h
        exact ⟨0, u, next, current, rfl, rfl, hu, hnone, List.cons_ne_nil _ _,
          Narrowest.singleton_iff.mpr rfl⟩

/-- Where no type is inferred, the complaint is about the first value that goes with none of those
    before it. -/
theorem inferType_eq_error {column : String} {values : List Value} {misfit : Misfit}
    (h : inferType column values = .error misfit) :
    ∃ row v T, misfit = .mixture column row v.kind T ∧ Clashes values row v T := by
  obtain ⟨row, v, t, T, rfl, hv, ht, hjoin, hne, hT⟩ := inferFrom_eq_error h
  have hknown : T ≠ .null := Narrowest.ne_null_iff hT |>.mpr hne
  refine ⟨row, v, T, by rw [Nat.zero_add], hv, hT, hknown, t, ht, ?_⟩
  exact ColumnType.join?_eq_none.mp hjoin

/-! ### The messages -/

namespace Misfit

variable {column : String} {row : Nat} {kind : ValueKind} {T : ColumnType}

/-- What is wrong with a value is told after its column, its row and its kind. -/
theorem message_eq {misfit : Misfit} {text : String}
    (hdetail : misfit.detail = s!"column {column} row {row}: {kind.name} value " ++ text) :
    (Error.misfit misfit).message =
      s!"Materialization error: column {column} row {row}: {kind.name} value {text}" := by
  have hhead : "Materialization error: column " = "Materialization error: " ++ "column " := by
    decide
  calc (Error.misfit misfit).message = "Materialization error: " ++ misfit.detail := rfl
    _ = "Materialization error: " ++
        (s!"column {column} row {row}: {kind.name} value " ++ text) := by rw [hdetail]
    _ = s!"Materialization error: column {column} row {row}: {kind.name} value {text}" := by
      show "Materialization error: " ++ ("column " ++ column ++ " row " ++ toString row ++ ": " ++
        kind.name ++ " value " ++ text) = "Materialization error: column " ++ column ++ " row " ++
        toString row ++ ": " ++ kind.name ++ " value " ++ text
      simp only [hhead, String.append_assoc]

/-- A value that does not fit the type of its column is named by column, row and kind, with the
    type. -/
private theorem detail_value : (value column row kind T).detail =
    s!"column {column} row {row}: {kind.name} value " ++ ("does not fit column type " ++ T.name)
    := by
  have htail : " value does not fit column type " = " value " ++ "does not fit column type " := by
    decide
  show "column " ++ column ++ " row " ++ toString row ++ ": " ++ kind.name ++
    " value does not fit column type " ++ T.name = "column " ++ column ++ " row " ++ toString row ++
    ": " ++ kind.name ++ " value " ++ ("does not fit column type " ++ T.name)
  simp only [htail, String.append_assoc]

/-- A value that does not go with those before it is named by column, row and kind, with the type
    of those. -/
private theorem detail_mixture : (mixture column row kind T).detail =
    s!"column {column} row {row}: {kind.name} value " ++ ("in a column of " ++ T.name ++ " values")
    := by
  have htail : " value in a column of " = " value " ++ "in a column of " := by decide
  show "column " ++ column ++ " row " ++ toString row ++ ": " ++ kind.name ++
    " value in a column of " ++ T.name ++ " values" = "column " ++ column ++ " row " ++
    toString row ++ ": " ++ kind.name ++ " value " ++ ("in a column of " ++ T.name ++ " values")
  simp only [htail, String.append_assoc]

end Misfit

/-! ### One column -/

namespace ColumnMeta

/-- The row and the value that a column is refused for, and what is said of the value. -/
inductive FirstMisfit (m : ColumnMeta) (values : List Value) : Nat → Value → String → Prop where
  /-- the first value that does not convert to the declared type -/
  | unfit {T : ColumnType} {row : Nat} {v : Value}
      (hdeclared : m.declared.bind ColumnType.ofDeclared? = some T)
      (hfirst : FirstUnfit T values row v) :
      FirstMisfit m values row v ("does not fit column type " ++ T.name)
  /-- where neither all are of one kind nor all are numbers, the first value that clashes with
      those above it -/
  | clash {T : ColumnType} {row : Nat} {v : Value}
      (hnone : m.declared.bind ColumnType.ofDeclared? = none)
      (hkinds : ¬ ∃ kind, ∀ u ∈ values, u = .null ∨ u.kind = kind)
      (hnumbers : ¬ ∀ u ∈ values, u = .null ∨ u.kind = .integer ∨ u.kind = .float)
      (hclash : Clashes values row v T) (habove : ∀ k < row, ∀ u U, ¬ Clashes values k u U) :
      FirstMisfit m values row v ("in a column of " ++ T.name ++ " values")
  /-- among numbers, one of them a double, the first integer that no double holds -/
  | rounded {row : Nat} {i : Int64} (hnone : m.declared.bind ColumnType.ofDeclared? = none)
      (hnumbers : ∀ u ∈ values, u = .null ∨ u.kind = .integer ∨ u.kind = .float)
      (hfloat : ∃ x, .float x ∈ values) (hvalue : values[row]? = some (.int i))
      (hround : ∀ x : Binary64, ¬ x.Holds i.toInt)
      (habove : ∀ k < row, ∀ j : Int64, values[k]? = some (.int j) →
        ∃ x : Binary64, x.Holds j.toInt) :
      FirstMisfit m values row (.int i) "does not fit column type Float64"

variable {m : ColumnMeta} {values : List Value} {row : Nat} {v : Value}

/-- The first misfit is a value of the column, in the row that is named. -/
theorem FirstMisfit.value {text : String} (h : m.FirstMisfit values row v text) :
    values[row]? = some v := by
  cases h with
  | unfit _ hfirst => exact hfirst.value
  | clash _ _ _ hclash _ => exact hclash.value
  | rounded _ _ _ hvalue _ _ => exact hvalue

/-- Numbers are the values that ask for a type of numbers. -/
theorem kind_numeric_iff {t : ColumnType} (h : v.naturalType? = some t) :
    v.kind = .integer ∨ v.kind = .float ↔ t = .int64 ∨ t = .float64 := by
  cases v <;> cases h <;> simp [Value.kind]

/-- A column ends at a clash only if its values have no type, so not if all are of one kind or
    all are numbers. -/
theorem firstMisfit_of_clashes (hnone : m.declared.bind ColumnType.ofDeclared? = none)
    {T : ColumnType} (h : Clashes values row v T) :
    m.FirstMisfit values row v ("in a column of " ++ T.name ++ " values") := by
  have hrow : row < values.length := (List.getElem?_eq_some_iff.mp h.value).1
  have hnarrowest : ∀ U, ¬ Narrowest (naturalTypes values) U := by
    have hall := h.not_narrowest hrow
    rwa [List.take_length] at hall
  -- values of one kind, and numbers, would have a narrowest type
  refine .clash hnone ?_ ?_ h ?_
  · rintro ⟨kind, hkind⟩
    obtain ⟨U, hU, _⟩ := exists_narrowest_of_kind hkind
    exact hnarrowest U hU
  · intro hnumbers
    have hnumeric : ∀ t ∈ naturalTypes values, t = .int64 ∨ t = .float64 := by
      intro t ht
      obtain ⟨u, hu, hut⟩ := mem_naturalTypes.mp ht
      rw [← kind_numeric_iff hut]
      refine (hnumbers u hu).resolve_left fun hnull => ?_
      rw [naturalType?_eq_none.mpr hnull] at hut
      exact absurd hut nofun
    obtain ⟨U, hU⟩ := Narrowest.exists_of_numeric hnumeric
    exact hnarrowest U hU
  · intro k hk u U hclash
    exact hclash.not_narrowest hk T h.inferred

/-- Of the values that a type was inferred from, only integers among doubles can be unfit. -/
theorem firstMisfit_of_narrowest (hnone : m.declared.bind ColumnType.ofDeclared? = none)
    {T : ColumnType} (hT : Narrowest (naturalTypes values) T) (h : FirstUnfit T values row v) :
    m.FirstMisfit values row v ("does not fit column type " ++ T.name) := by
  obtain ⟨t, ht⟩ : ∃ t, v.naturalType? = some t :=
    Option.ne_none_iff_exists'.mp fun hnull => h.ne_null (naturalType?_eq_none.mp hnull)
  -- a value of the type itself would fit
  have hother : t ≠ T := by
    rintro rfl
    exact h.unfit v (convertsTo_natural ht)
  have hmem : t ∈ naturalTypes values :=
    mem_naturalTypes.mpr ⟨v, List.mem_of_getElem? h.value, ht⟩
  generalize htypes : naturalTypes values = types at hT hmem
  cases hT with
  | nothing => exact absurd hmem List.not_mem_nil
  | uniform _ _ _ hall => exact absurd (hall t hmem) hother
  | mixed _ _ hfloat hall =>
    -- so it is an integer in a column of doubles
    obtain rfl : t = .int64 := (hall t hmem).resolve_right hother
    obtain ⟨i, rfl⟩ : ∃ i, v = .int i := by
      cases v <;> simp_all [Value.naturalType?]
    refine .rounded hnone ?_ ?_ h.value ?_ ?_
    · intro u hu
      cases hut : u.naturalType? with
      | none => exact .inl (naturalType?_eq_none.mp hut)
      | some s =>
        have hs : s ∈ types := htypes ▸ mem_naturalTypes.mpr ⟨u, hu, hut⟩
        exact .inr ((kind_numeric_iff hut).mpr (hall s hs))
    · obtain ⟨u, hu, hut⟩ := mem_naturalTypes.mp (htypes ▸ hfloat)
      cases u with
      | float x => exact ⟨x, hu⟩
      | _ => simp [Value.naturalType?] at hut
    · intro x hx
      exact h.unfit _ (.heldInt i x hx)
    · intro k hk j hj
      rcases h.above k hk _ hj with hnull | ⟨w, hw⟩
      · cases hnull
      · cases hw with
        | heldInt _ x hx => exact ⟨x, hx⟩

/-- **One column.** A column that is not made is refused for its first misfit. -/
theorem column_eq_error {misfit : Misfit} (h : m.column values = .error misfit) :
    ∃ row v text, m.FirstMisfit values row v text ∧
      (Error.misfit misfit).message =
        s!"Materialization error: column {m.name} row {row}: {v.kind.name} value {text}" := by
  unfold column at h
  cases htype : m.type values with
  | error e =>
    -- there is no type for the values
    rw [htype] at h
    obtain rfl : e = misfit := Except.error.inj h
    unfold type at htype
    split at htype
    · exact absurd htype nofun
    · rename_i hnone
      obtain ⟨row, v, T, rfl, hclash⟩ := inferType_eq_error htype
      exact ⟨row, v, _, firstMisfit_of_clashes hnone hclash,
        Misfit.message_eq Misfit.detail_mixture⟩
  | ok T =>
    -- there is one, and a value that does not fit it
    rw [htype] at h
    simp only [bind, Except.bind] at h
    split at h
    · exact absurd h nofun
    · rename_i row v hvalues
      obtain rfl := Except.error.inj h
      have hfirst := ColumnValues.ofValues_eq_error hvalues
      refine ⟨row, v, _, ?_, Misfit.message_eq Misfit.detail_value⟩
      rcases type_eq_ok.mp htype with hdeclared | ⟨hnone, hT⟩
      · exact .unfit hdeclared hfirst
      · exact firstMisfit_of_narrowest hnone hT hfirst

end ColumnMeta

/-! ### The first column that is refused -/

/-- The columns before the one that is refused are made. -/
theorem materializeFrom_eq_error {r : ResultSet} {start : Nat} {metas : List ColumnMeta}
    {misfit : Misfit} (h : materializeFrom r start metas = .error misfit) :
    ∃ (j : Nat) (m : ColumnMeta), metas[j]? = some m ∧
      m.column (r.columnValues (start + j)) = .error misfit ∧
      ∀ (k : Nat) (m' : ColumnMeta), k < j → metas[k]? = some m' →
        ∃ c, m'.column (r.columnValues (start + k)) = .ok c := by
  induction metas generalizing start with
  | nil => cases h
  | cons m rest ih =>
    cases hcolumn : m.column (r.columnValues start) with
    | error e =>
      simp only [materializeFrom, hcolumn, bind, Except.bind] at h
      obtain rfl := Except.error.inj h
      exact ⟨0, m, rfl, hcolumn, fun k _ hk => absurd hk k.not_lt_zero⟩
    | ok c =>
      cases hrest : materializeFrom r (start + 1) rest with
      | ok others => simp [materializeFrom, hcolumn, hrest, bind, Except.bind] at h
      | error e =>
        -- this column is made, so the one that is refused comes later
        simp only [materializeFrom, hcolumn, hrest, bind, Except.bind] at h
        obtain rfl := Except.error.inj h
        obtain ⟨j, m', hm', herror, hmade⟩ := ih hrest
        have hshift : ∀ k, start + (k + 1) = start + 1 + k := by omega
        refine ⟨j + 1, m', hm', by rwa [hshift], ?_⟩
        intro k m'' hk hm''
        cases k with
        | zero =>
          obtain rfl := Option.some.inj hm''
          exact ⟨c, hcolumn⟩
        | succ k =>
          rw [hshift]
          exact hmade k m'' (by omega) hm''

section Misfits

variable {r : ResultSet} (hrows : ∀ row ∈ r.rows, row.values.length = r.columns.length)

include hrows

/-- Of rows of one width a table is refused for one of its columns only. -/
theorem materializeFrom_eq_error_of_materialize {e : Error} (h : materialize r = .error e) :
    ∃ misfit, e = .misfit misfit ∧ materializeFrom r 0 r.columns = .error misfit := by
  cases hcolumns : materializeFrom r 0 r.columns with
  | error misfit =>
    rw [materialize, hcolumns] at h
    obtain rfl : Error.misfit misfit = e := Except.error.inj h
    exact ⟨misfit, rfl, rfl⟩
  | ok columns =>
    have hmade : r.Makes columns := materializeFrom_eq_ok.mp hcolumns
    obtain ⟨t, ht⟩ := hmade.exists_materialize hrows
    rw [ht] at h
    exact absurd h nofun

/-- The value of a column in a row is that of the row in the column's place. -/
private theorem exists_row_of_columnValues {j row : Nat} (hj : j < r.columns.length) {v : Value}
    (hv : (r.columnValues j)[row]? = some v) :
    ∃ source, r.rows[row]? = some source ∧ source.values[j]? = some v := by
  rw [r.columnValues_eq_map hrows hj, List.getElem?_map] at hv
  obtain ⟨source, hsource, rfl⟩ := Option.map_eq_some_iff.mp hv
  have hwidth : j < source.values.length := by
    rw [hrows source (List.mem_of_getElem? hsource)]
    exact hj
  exact ⟨source, hsource, by rw [List.getElem?_eq_getElem hwidth, Option.getD_some]⟩

/-- **The first misfit.** If a result set with rows as wide as they are many columns makes no
    table, the error says so and names a column, a row and the kind of the value there.  The
    column is the first that does not fit.  The value is the first that does not convert to the
    type declared for the column; or, where none is declared, the first whose kind conflicts
    with the type inferred above it; or, if there is no such value, the first integer among
    doubles that no double holds. -/
theorem materialize_first_misfit {e : Error} (h : materialize r = .error e) :
    e.kind = .materialization ∧
    ∃ (j : Nat) (m : ColumnMeta) (row : Nat) (source : Row) (v : Value) (text : String),
      r.columns[j]? = some m ∧ ¬ m.Fits (r.columnValues j) ∧
      (∀ (k : Nat) (m' : ColumnMeta), k < j → r.columns[k]? = some m' →
        m'.Fits (r.columnValues k)) ∧
      m.FirstMisfit (r.columnValues j) row v text ∧
      r.rows[row]? = some source ∧ source.values[j]? = some v ∧
      e.message =
        s!"Materialization error: column {m.name} row {row}: {v.kind.name} value {text}" := by
  obtain ⟨misfit, rfl, herror⟩ := materializeFrom_eq_error_of_materialize hrows h
  -- the columns before it are made, and it is refused for the first of its own misfits
  obtain ⟨j, m, hm, hcolumn, hmade⟩ := materializeFrom_eq_error herror
  simp only [Nat.zero_add] at hcolumn hmade
  obtain ⟨row, v, text, hfirst, hmessage⟩ := ColumnMeta.column_eq_error hcolumn
  have hj : j < r.columns.length := (List.getElem?_eq_some_iff.mp hm).1
  obtain ⟨source, hsource, hcell⟩ := exists_row_of_columnValues hrows hj hfirst.value
  refine ⟨rfl, j, m, row, source, v, text, hm, ?_, ?_, hfirst, hsource, hcell, hmessage⟩
  · rw [← ColumnMeta.exists_column_iff, hcolumn]
    rintro ⟨c, hc⟩
    exact absurd hc nofun
  · intro k m' hk hm'
    exact ColumnMeta.exists_column_iff.mp (hmade k m' hk hm')

end Misfits

namespace MisfitsTest

/-- A column that fits beside one of an integer that no double holds, a double and a text. -/
def late : ResultSet where
  columns := [⟨"a", some "INTEGER"⟩, ⟨"v", none⟩]
  rows := [⟨["a", "v"], [.int 1, .int 9007199254740993]⟩,
    ⟨["a", "v"], [.null, .float (.ofRatio false 1 2)]⟩, ⟨["a", "v"], [.int 2, .text "x"]⟩]
  rowsAffected := 3

end MisfitsTest

open MisfitsTest in
/-- The text is named, though the integer stands above it. -/
theorem materialize_first_misfit_of_text :
    (∀ row ∈ late.rows, row.values.length = late.columns.length) ∧
    materialize late = .error (.misfit (.mixture "v" 2 .text .float64)) ∧
    ∃ (j : Nat) (m : ColumnMeta) (row : Nat) (v : Value) (text : String),
      late.columns[j]? = some m ∧ ¬ m.Fits (late.columnValues j) ∧
      m.FirstMisfit (late.columnValues j) row v text ∧
      (Error.misfit (.mixture "v" 2 .text .float64)).message =
        s!"Materialization error: column {m.name} row {row}: {v.kind.name} value {text}" := by
  have hrows : ∀ row ∈ late.rows, row.values.length = late.columns.length := by
    simp [late]
  have herror : materialize late = .error (.misfit (.mixture "v" 2 .text .float64)) := by
    decide +kernel
  obtain ⟨_, j, m, row, _, v, text, hm, hunfit, _, hfirst, _, _, hmessage⟩ :=
    materialize_first_misfit hrows herror
  exact ⟨hrows, herror, j, m, row, v, text, hm, hunfit, hfirst, hmessage⟩

end SqlClient
