import Mathlib.Data.List.Forall2
import SqlClient.Proofs.Binary64.Integers
import SqlClient.Table.Materialize

namespace SqlClient

/-!
# Values as cells

Which values fit a column of which type, and what becomes of them there, told without the
functions that convert them.

* `ConvertsTo` — a value and the same value as a cell of a type.
* `IsCell` — the cell for a value, null for null.
* `Reads` — a conversion that takes exactly the values that fit.
* `ColumnValues.ofValues_eq_ok` — the columns made of values, cell by cell.
* `ConvertsTo.unique` — a value is in a column in one way only.
-/

/-- A value and what it is in a column of the type.  Only integers, booleans and timestamps
    come in more than one form. -/
inductive ConvertsTo : ColumnType → Value → Value → Prop where
  | int (i : Int64) : ConvertsTo .int64 (.int i) (.int i)
  | float (x : Binary64) : ConvertsTo .float64 (.float x) (.float x)
  /-- an integer among doubles, if one of them holds it -/
  | heldInt (i : Int64) (x : Binary64) (h : x.Holds i.toInt) :
      ConvertsTo .float64 (.int i) (.float x)
  | text (s : String) : ConvertsTo .utf8 (.text s) (.text s)
  | bool (b : Bool) : ConvertsTo .boolean (.bool b) (.bool b)
  /-- a boolean as engines keep it -/
  | bit (b : Bool) : ConvertsTo .boolean (.int (if b then 1 else 0)) (.bool b)
  | timestamp (t : Timestamp) : ConvertsTo .timestamp (.timestamp t) (.timestamp t)
  /-- a timestamp in one of its layouts -/
  | stamp (s : String) (t : Timestamp) (h : Timestamp.ofText? s = some t) :
      ConvertsTo .timestamp (.text s) (.timestamp t)
  | blob (bytes : List UInt8) : ConvertsTo .binary (.blob bytes) (.blob bytes)

/-- What a value is converted to is never null, so null stands in a column for null alone. -/
theorem ConvertsTo.ne_null {T : ColumnType} {v w : Value} (h : ConvertsTo T v w) :
    v ≠ .null ∧ w ≠ .null := by
  cases h <;> simp

/-- The cell for a value in a column of the type. -/
def IsCell (T : ColumnType) (v w : Value) : Prop :=
  v = .null ∧ w = .null ∨ ConvertsTo T v w

/-- A cell is null exactly where the value is. -/
theorem IsCell.null_iff {T : ColumnType} {v w : Value} (h : IsCell T v w) :
    w = .null ↔ v = .null := by
  rcases h with ⟨rfl, rfl⟩ | hconverts
  · rfl
  · exact iff_of_false hconverts.ne_null.2 hconverts.ne_null.1

/-- A list can be matched with another if every member has a match. -/
theorem exists_forall₂_iff {α β : Type} {R : α → β → Prop} {l : List α} :
    (∃ l', List.Forall₂ R l l') ↔ ∀ a ∈ l, ∃ b, R a b := by
  induction l with
  | nil => simp
  | cons a rest ih =>
    rw [List.forall_mem_cons, ← ih]
    constructor
    · rintro ⟨_, h⟩
      cases h with
      | cons ha hrest => exact ⟨⟨_, ha⟩, _, hrest⟩
    · rintro ⟨⟨b, hb⟩, l', hrest⟩
      exact ⟨b :: l', .cons hb hrest⟩

/-- A computation that does not fail has a result. -/
theorem exists_eq_ok {α ε : Type} {x : Except ε α} (h : x.isOk = true) : ∃ a, x = .ok a := by
  cases x with
  | error e => exact absurd h nofun
  | ok a => exact ⟨a, rfl⟩

/-- What a computation with a first part gives comes of what that part gives. -/
theorem exists_of_bind_eq_ok {α β ε : Type} {x : Except ε α} {f : α → Except ε β} {b : β}
    (h : x >>= f = .ok b) : ∃ a, x = .ok a ∧ f a = .ok b := by
  cases x with
  | error e => exact absurd h nofun
  | ok a => exact ⟨a, rfl, h⟩

/-- A list is worked through if each of its members is, and not otherwise. -/
theorem mapM_eq_ok_iff {α β ε : Type} {f : α → Except ε β} {l : List α} {l' : List β} :
    l.mapM f = .ok l' ↔ List.Forall₂ (fun a b => f a = .ok b) l l' := by
  induction l generalizing l' with
  | nil => simp [pure, Except.pure, eq_comm]
  | cons a rest ih =>
    rw [List.mapM_cons, List.forall₂_cons_left_iff]
    simp only [← ih]
    cases ha : f a with
    | error e => simp [bind, Except.bind]
    | ok b =>
      cases hrest : rest.mapM f with
      | error e => simp [bind, Except.bind]
      | ok others => simp [bind, Except.bind, pure, Except.pure, eq_comm]

/-! ### Conversions -/

/-- A conversion takes exactly the values that fit the type, and what it makes of them are
    their cells. -/
structure Reads {α : Type} (T : ColumnType) (convert : Value → Option α) (wrap : α → Value) :
    Prop where
  converts : ∀ v a, convert v = some a ↔ ConvertsTo T v (wrap a)
  wrapped : ∀ v w, ConvertsTo T v w → ∃ a, w = wrap a
  ne_null : ∀ a, wrap a ≠ .null

/-- The 64 bits of an integer are far from the largest exponent. -/
theorem log2_toInt_lt (i : Int64) : i.toInt.natAbs.log2 < 1023 := by
  have hlow := i.le_toInt
  have hhigh := i.toInt_lt
  by_cases hzero : i.toInt.natAbs = 0
  · rw [hzero]
    decide
  · have hlog : i.toInt.natAbs.log2 < 64 := (Nat.log2_lt hzero).mpr (by omega)
    omega

/-- An integer of 64 bits that a double holds is one that survives rounding. -/
theorem exactFloat?_int (i : Int64) (x : Binary64) :
    (Value.int i).exactFloat? = some x ↔ x.Holds i.toInt := by
  rw [Binary64.holds_iff (log2_toInt_lt i)]
  simp only [Value.exactFloat?]
  split
  · rename_i hback
    constructor
    · intro h
      obtain rfl := Option.some.inj h
      exact ⟨rfl, hback⟩
    · rintro ⟨rfl, _⟩
      rfl
  · rename_i hback
    refine iff_of_false (by simp) ?_
    rintro ⟨rfl, hx⟩
    exact hback hx

/-- A column of nulls reads no value but null. -/
private theorem reads_nothing : Reads .null Value.asNothing? Empty.elim where
  converts _ a := a.elim
  wrapped _ _ h := nomatch h
  ne_null a := a.elim

/-- A column of integers reads integers. -/
private theorem reads_int : Reads .int64 Value.asInt? .int where
  converts v a := by
    constructor
    · intro h
      cases v <;> simp_all [Value.asInt?]
      exact .int a
    · intro h
      cases h
      rfl
  wrapped _ _ h := by
    cases h
    exact ⟨_, rfl⟩
  ne_null _ := nofun

/-- A column of doubles reads doubles, and integers that are doubles exactly. -/
private theorem reads_float : Reads .float64 Value.exactFloat? .float where
  converts v a := by
    constructor
    · intro h
      cases v with
      | int i => exact .heldInt i a ((exactFloat?_int i a).mp h)
      | float x =>
        obtain rfl := Option.some.inj h
        exact .float x
      | _ => simp [Value.exactFloat?, Value.asFloat?] at h
    · intro h
      cases h with
      | float => rfl
      | heldInt i _ hheld => exact (exactFloat?_int i a).mpr hheld
  wrapped _ _ h := by
    cases h
    · exact ⟨_, rfl⟩
    · exact ⟨_, rfl⟩
  ne_null _ := nofun

/-- A column of texts reads texts. -/
private theorem reads_text : Reads .utf8 Value.asText? .text where
  converts v a := by
    constructor
    · intro h
      cases v <;> simp_all [Value.asText?]
      exact .text a
    · intro h
      cases h
      rfl
  wrapped _ _ h := by
    cases h
    exact ⟨_, rfl⟩
  ne_null _ := nofun

/-- A column of booleans reads booleans, and the integers zero and one. -/
private theorem reads_bool : Reads .boolean Value.asBool? .bool where
  converts v a := by
    constructor
    · intro h
      cases v with
      | int i =>
        -- of the integers, zero and one are read, and no others
        simp only [Value.asBool?] at h
        split at h
        · rename_i hzero
          obtain rfl := Option.some.inj h
          rw [hzero]
          exact .bit false
        · split at h
          · rename_i hone
            obtain rfl := Option.some.inj h
            rw [hone]
            exact .bit true
          · exact absurd h (by simp)
      | bool b =>
        obtain rfl := Option.some.inj h
        exact .bool b
      | _ => simp [Value.asBool?] at h
    · intro h
      cases h with
      | bool => rfl
      | bit => cases a <;> rfl
  wrapped _ _ h := by
    cases h
    · exact ⟨_, rfl⟩
    · exact ⟨_, rfl⟩
  ne_null _ := nofun

/-- A column of timestamps reads timestamps, and texts in one of the layouts. -/
private theorem reads_timestamp : Reads .timestamp Value.asTimestamp? .timestamp where
  converts v a := by
    constructor
    · intro h
      cases v with
      | text s => exact .stamp s a h
      | timestamp t =>
        obtain rfl := Option.some.inj h
        exact .timestamp t
      | _ => simp [Value.asTimestamp?] at h
    · intro h
      cases h with
      | timestamp => rfl
      | stamp s _ hparse => exact hparse
  wrapped _ _ h := by
    cases h
    · exact ⟨_, rfl⟩
    · exact ⟨_, rfl⟩
  ne_null _ := nofun

/-- A column of blobs reads blobs. -/
private theorem reads_blob : Reads .binary Value.asBlob? .blob where
  converts v a := by
    constructor
    · intro h
      cases v <;> simp_all [Value.asBlob?]
      exact .blob a
    · intro h
      cases h
      rfl
  wrapped _ _ h := by
    cases h
    exact ⟨_, rfl⟩
  ne_null _ := nofun

/-! ### Columns of cells -/

section Cells

variable {α : Type} {T : ColumnType} {convert : Value → Option α} {wrap : α → Value}

/-- A value has a cell exactly if it is null or is read, and that is the cell. -/
theorem Reads.isCell_iff (h : Reads T convert wrap) (v : Value) (cell : Option α) :
    IsCell T v (ColumnValues.cellValue wrap cell) ↔
      v = .null ∧ cell = none ∨ v ≠ .null ∧ ∃ a, convert v = some a ∧ cell = some a := by
  cases cell with
  | none =>
    have hnone : ¬ ConvertsTo T v .null := fun hconverts => hconverts.ne_null.2 rfl
    simp [IsCell, ColumnValues.cellValue, hnone]
  | some a =>
    have hvalue : ConvertsTo T v (wrap a) → v ≠ .null := fun hconverts => hconverts.ne_null.1
    simp only [IsCell, ColumnValues.cellValue, h.ne_null a, h.converts, and_false, false_or,
      Option.some.injEq, exists_eq_right', reduceCtorEq]
    exact ⟨fun hconverts => ⟨hvalue hconverts, hconverts⟩, And.right⟩

/-- Every cell of a column of the type is the cell of some value. -/
theorem Reads.exists_cell (h : Reads T convert wrap) {v w : Value} (hcell : IsCell T v w) :
    ∃ cell, ColumnValues.cellValue wrap cell = w := by
  rcases hcell with ⟨_, rfl⟩ | hconverts
  · exact ⟨none, rfl⟩
  · obtain ⟨a, rfl⟩ := h.wrapped v w hconverts
    exact ⟨some a, rfl⟩

/-- The cells that are made of values, from whatever row on. -/
theorem Reads.convertFrom_eq_ok (h : Reads T convert wrap) (row : Nat) {values : List Value}
    {cells : List (Option α)} :
    convertFrom convert row values = .ok cells ↔
      List.Forall₂ (IsCell T) values (cells.map (ColumnValues.cellValue wrap)) := by
  induction values generalizing row cells with
  | nil => cases cells <;> simp [convertFrom]
  | cons v rest ih =>
    cases cells with
    | nil =>
      -- a value makes one cell, so there are as many cells as values
      refine iff_of_false (fun hok => ?_) nofun
      simp only [convertFrom] at hok
      split at hok
      · cases hrest : convertFrom convert (row + 1) rest <;> simp [hrest, Except.map] at hok
      · split at hok
        · cases hrest : convertFrom convert (row + 1) rest <;> simp [hrest, Except.map] at hok
        · exact absurd hok nofun
    | cons cell others =>
      rw [List.map_cons, List.forall₂_cons, h.isCell_iff, ← ih (row + 1)]
      by_cases hnull : v = .null
      · subst hnull
        simp only [convertFrom, Value.isNull_null, if_true]
        cases hrest : convertFrom convert (row + 1) rest <;> simp [Except.map, eq_comm]
      · have hvalue : ¬ v.isNull = true := fun hv => hnull (Value.isNull_iff.mp hv)
        simp only [convertFrom, hvalue, hnull]
        cases hread : convert v with
        | none => simp
        | some a =>
          cases hrest : convertFrom convert (row + 1) rest <;>
            simp [Except.map, hnull, eq_comm, and_comm]

/-- A column is made of values if each of them has a cell. -/
theorem Reads.exists_convertFrom (h : Reads T convert wrap) (row : Nat) {values : List Value}
    (hcells : ∀ v ∈ values, ∃ w, IsCell T v w) :
    ∃ cells, convertFrom convert row values = .ok cells := by
  have hmade : ∀ v ∈ values, ∃ cell, IsCell T v (ColumnValues.cellValue wrap cell) := by
    intro v hv
    obtain ⟨w, hw⟩ := hcells v hv
    obtain ⟨cell, rfl⟩ := h.exists_cell hw
    exact ⟨cell, hw⟩
  obtain ⟨cells, hforall⟩ := exists_forall₂_iff.mpr hmade
  exact ⟨cells, (h.convertFrom_eq_ok row).mpr (List.forall₂_map_right_iff.mpr hforall)⟩

end Cells

namespace ColumnValues

/-- Columns of every type are made of values in the same way, each value being read by itself. -/
theorem ofValues_eq_map (T : ColumnType) :
    ∃ (α : Type) (convert : Value → Option α) (wrap : α → Value)
      (column : List (Option α) → ColumnValues),
      Reads T convert wrap ∧ (∀ cells, (column cells).toList = cells.map (cellValue wrap)) ∧
      (∀ c : ColumnValues, c.type = T → ∃ cells, column cells = c) ∧
      (∀ cells, (column cells).type = T) ∧
      ∀ values, ofValues T values = (convertFrom convert 0 values).map column := by
  cases T with
  | null =>
    refine ⟨Empty, Value.asNothing?, Empty.elim, fun cells => .null cells.length,
      reads_nothing, fun cells => ?_, fun c hc => ?_, fun _ => rfl, fun _ => rfl⟩
    -- a column of nulls keeps their number and no cells
    · have hnone : ∀ cell ∈ cells, cellValue Empty.elim cell = .null := by
        rintro (_ | a) _
        · rfl
        · exact a.elim
      exact (List.map_eq_replicate_iff.mpr hnone).symm
    · cases c with
      | null count => exact ⟨List.replicate count none, by simp⟩
      | _ => exact absurd hc (by simp [type])
  | int64 =>
    refine ⟨_, _, _, .int64, reads_int, fun _ => rfl, fun c hc => ?_, fun _ => rfl, fun _ => rfl⟩
    cases c <;> simp_all [type]
  | float64 =>
    refine ⟨_, _, _, .float64, reads_float, fun _ => rfl, fun c hc => ?_, fun _ => rfl,
      fun _ => rfl⟩
    cases c <;> simp_all [type]
  | utf8 =>
    refine ⟨_, _, _, .utf8, reads_text, fun _ => rfl, fun c hc => ?_, fun _ => rfl, fun _ => rfl⟩
    cases c <;> simp_all [type]
  | boolean =>
    refine ⟨_, _, _, .boolean, reads_bool, fun _ => rfl, fun c hc => ?_, fun _ => rfl,
      fun _ => rfl⟩
    cases c <;> simp_all [type]
  | timestamp =>
    refine ⟨_, _, _, .timestamp, reads_timestamp, fun _ => rfl, fun c hc => ?_, fun _ => rfl,
      fun _ => rfl⟩
    cases c <;> simp_all [type]
  | binary =>
    refine ⟨_, _, _, .binary, reads_blob, fun _ => rfl, fun c hc => ?_, fun _ => rfl,
      fun _ => rfl⟩
    cases c <;> simp_all [type]

/-- **Cell by cell.** The column of a type made of values is the one whose cells are theirs. -/
theorem ofValues_eq_ok {T : ColumnType} {values : List Value} {c : ColumnValues} :
    ofValues T values = .ok c ↔ c.type = T ∧ List.Forall₂ (IsCell T) values c.toList := by
  obtain ⟨α, convert, wrap, column, hreads, htoList, hcolumn, htype, heq⟩ := ofValues_eq_map T
  rw [heq]
  constructor
  · intro h
    cases hcells : convertFrom convert 0 values with
    | error e =>
      rw [hcells] at h
      exact absurd h nofun
    | ok cells =>
      rw [hcells] at h
      obtain rfl : column cells = c := by simpa [Except.map] using h
      rw [htoList]
      exact ⟨htype cells, (hreads.convertFrom_eq_ok 0).mp hcells⟩
  · rintro ⟨hc, hforall⟩
    obtain ⟨cells, rfl⟩ := hcolumn c hc
    rw [htoList] at hforall
    rw [(hreads.convertFrom_eq_ok 0).mpr hforall]
    rfl

/-- There is a column of the type if every value has a cell in one. -/
theorem exists_ofValues {T : ColumnType} {values : List Value} :
    (∃ c, ofValues T values = .ok c) ↔ ∀ v ∈ values, ∃ w, IsCell T v w := by
  constructor
  · rintro ⟨c, hc⟩ v hv
    obtain ⟨_, hforall⟩ := ofValues_eq_ok.mp hc
    exact exists_forall₂_iff.mp ⟨_, hforall⟩ v hv
  · intro hcells
    obtain ⟨α, convert, wrap, column, hreads, _, _, _, heq⟩ := ofValues_eq_map T
    obtain ⟨cells, hok⟩ := hreads.exists_convertFrom 0 hcells
    exact ⟨column cells, by rw [heq, hok]; rfl⟩

end ColumnValues

/-- What a value is in a column of a type is settled. -/
theorem ConvertsTo.unique {T : ColumnType} {v w w' : Value} (h : ConvertsTo T v w)
    (h' : ConvertsTo T v w') : w = w' := by
  obtain ⟨α, convert, wrap, _, hreads, _⟩ := ColumnValues.ofValues_eq_map T
  obtain ⟨a, rfl⟩ := hreads.wrapped v w h
  -- both are what the conversion for the type makes of the value
  obtain ⟨a', rfl⟩ := hreads.wrapped v w' h'
  have ha : convert v = some a := (hreads.converts v a).mpr h
  have ha' : convert v = some a' := (hreads.converts v a').mpr h'
  rw [Option.some.inj (ha.symm.trans ha')]

/-- A value has one cell at most in a column of a type. -/
theorem IsCell.unique {T : ColumnType} {v w w' : Value} (h : IsCell T v w)
    (h' : IsCell T v w') : w = w' := by
  rcases h with ⟨rfl, rfl⟩ | hconverts
  · exact (h'.null_iff.mpr rfl).symm
  · rcases h' with ⟨rfl, rfl⟩ | hconverts'
    · exact absurd rfl hconverts.ne_null.1
    · exact hconverts.unique hconverts'

end SqlClient
