import Mathlib.Data.List.Basic
import Mathlib.Order.Bounds.Basic
import Mathlib.Tactic.Common
import SqlClient.Proofs.ResultSet.Rows

namespace SqlClient

/-!
# Rows offered to a result set

A result set is begun with its columns or with a count, and then rows of any width are offered
to it.  It takes those of its own width and refuses the others, and nothing is left of what it
refused.  Its rows share one index of the names of its columns.

* `Row.Finds` — what a row finds by a name.
* `ResultSet.Beginning` — how a result set is begun.
* `ResultSet.Holds` — a result set that has taken some rows and no others.
* `ResultSet.offers_account` — what any offers leave.
-/

namespace Row

/-- What a row finds by a name is the least place of the name among its names. -/
theorem columnIndex?_eq_some_iff {row : Row} {name : String} {j : Nat} :
    row.columnIndex? name = some j ↔ IsLeast {i | row.names[i]? = some name} j := by
  rw [columnIndex?_eq_findIdx?, List.findIdx?_eq_some_iff_getElem]
  constructor
  · rintro ⟨hj, hname, hbefore⟩
    refine ⟨by simpa [hj] using hname, fun i hi => ?_⟩
    obtain ⟨hlt, hi⟩ := List.getElem?_eq_some_iff.mp hi
    exact Nat.not_lt.mp fun hij => hbefore i hij (by simpa using hi)
  · rintro ⟨hname, hleast⟩
    obtain ⟨hj, hname⟩ := List.getElem?_eq_some_iff.mp hname
    refine ⟨hj, by simpa using hname, fun i hij hi => ?_⟩
    exact Nat.not_le.mpr hij (hleast (List.getElem?_eq_some_iff.mpr ⟨_, by simpa using hi⟩))

private theorem columnIndex?_eq_none_iff {row : Row} {name : String} :
    row.columnIndex? name = none ↔ name ∉ row.names := by
  rw [columnIndex?_eq_findIdx?, List.findIdx?_eq_none_iff]
  simp only [decide_eq_false_iff_not]
  exact List.forall_mem_ne'

/-- What a row finds by a name under its columns: the first column of the name and its value in
    there, or nothing. -/
structure Finds (columns : List ColumnMeta) (row : Row) (name : String) : Prop where
  index_eq : row.columnIndex? name = (indexColumns (columns.map (·.name)))[name]?
  least : ∀ j, row.columnIndex? name = some j ↔
    IsLeast {i | ∃ c, columns[i]? = some c ∧ c.name = name} j
  none_iff : row.columnIndex? name = none ↔ ∀ c ∈ columns, c.name ≠ name
  get?_eq : ∀ j, row.columnIndex? name = some j →
    ∃ v, row.values[j]? = some v ∧ row.get? name = some v
  get?_eq_none : row.columnIndex? name = none → row.get? name = none

theorem finds {columns : List ColumnMeta} {values : List Value}
    (hwidth : values.length = columns.length) (name : String) :
    Finds columns ⟨columns.map (·.name), values⟩ name where
  index_eq := rfl
  least j := by
    rw [columnIndex?_eq_some_iff]
    simp only [List.getElem?_map, Option.map_eq_some_iff]
  none_iff := by
    rw [columnIndex?_eq_none_iff, List.mem_map]
    exact ⟨fun h c hc hname => h ⟨c, hc, hname⟩, fun h ⟨c, hc, hname⟩ => h c hc hname⟩
  get?_eq j hj := by
    obtain ⟨hname, -⟩ := columnIndex?_eq_some_iff.mp hj
    obtain ⟨hlt, -⟩ := List.getElem?_eq_some_iff.mp hname
    have hlt' : j < values.length := by
      rw [hwidth]
      simpa using hlt
    exact ⟨values[j], by simp [hlt'], by simp [get?, hj, hlt']⟩
  get?_eq_none hnone := by simp [get?, hnone]

end Row

namespace ResultSet

/-! ### How a result set is begun -/

/-- A result set is begun with columns and room for rows, or with the count of a statement. -/
inductive Beginning where
  | under (columns : List ColumnMeta) (capacity : Nat)
  | affected (count : Nat)
deriving DecidableEq, Repr

namespace Beginning

def resultSet : Beginning → ResultSet
  | under columns capacity => withCapacity columns capacity
  | affected count => .affected count

def columns : Beginning → List ColumnMeta
  | under columns _ => columns
  | affected _ => []

/-- What is counted before any row. -/
def count : Beginning → Nat
  | under _ _ => 0
  | affected count => count

def width (b : Beginning) : Nat := b.columns.length

end Beginning

/-! ### Offers -/

/-- Why a row is refused under so many columns. -/
def refusal? (width : Nat) (values : List Value) : Option Error :=
  if values.length = width then none else some (.rowWidth values.length width)

private theorem refusal?_eq_none_iff {width : Nat} {values : List Value} :
    refusal? width values = none ↔ values.length = width := by
  unfold refusal?
  split_ifs with h <;> simp [h]

/-- A row is refused for its width only, and as a fault in the execution. -/
private theorem kind_of_refusal? {width : Nat} {values : List Value} {e : Error}
    (h : refusal? width values = some e) : values.length ≠ width ∧ e.kind = .execution := by
  unfold refusal? at h
  split_ifs at h with hfits
  obtain rfl := Option.some.inj h
  exact ⟨hfits, rfl⟩

/-- The rows among those offered that are of the right width. -/
def taken (width : Nat) (rows : List (List Value)) : List (List Value) :=
  rows.filter (·.length = width)

/-- A result set with these columns that has taken these rows, and counts them on. -/
structure Holds (columns : List ColumnMeta) (count : Nat) (rows : List (List Value))
    (r : ResultSet) : Prop where
  columns_eq : r.columns = columns
  rows_eq : r.rows = rows.map (Row.mk (columns.map (·.name)))
  rowsAffected_eq : r.rowsAffected = count + rows.length

theorem Beginning.holds (b : Beginning) : Holds b.columns b.count [] b.resultSet := by
  cases b with
  | under columns capacity => exact ⟨rfl, rfl, rfl⟩
  | affected count => exact ⟨rfl, rfl, rfl⟩

section Offers

variable {columns : List ColumnMeta} {count : Nat} {rows : List (List Value)} {r : ResultSet}

/-- One more offer is taken if it is of the right width, and refused for that reason if it is
    not. -/
theorem Holds.offer (h : Holds columns count rows r) (values : List Value) :
    Holds columns count (rows ++ taken columns.length [values]) (r.offer values).1 ∧
      (r.offer values).2 = refusal? columns.length values := by
  obtain ⟨rfl, hrows, hcount⟩ := h
  by_cases hwidth : values.length = r.columns.length
  · have hadd : r.add values = .ok { r with
        rows := r.rows ++ [⟨r.columnNames, values⟩], rowsAffected := r.rowsAffected + 1 } :=
      if_pos hwidth
    simp only [ResultSet.offer, hadd, taken, refusal?]
    refine ⟨⟨rfl, ?_, ?_⟩, by simp [hwidth]⟩
    · simp [hrows, hwidth, columnNames]
    · simp [hcount, hwidth, Nat.add_assoc]
  · have hadd : r.add values = .error (.rowWidth values.length r.columns.length) :=
      if_neg hwidth
    simp only [ResultSet.offer, hadd, taken, refusal?]
    exact ⟨⟨rfl, by simp [hrows, hwidth], by simp [hcount, hwidth]⟩, by simp [hwidth]⟩

/-- Any more offers are taken or refused one by one, and the rows taken are in their order. -/
theorem Holds.offerAll (h : Holds columns count rows r) (more : List (List Value)) :
    Holds columns count (rows ++ taken columns.length more) (r.offerAll more).1 ∧
      (r.offerAll more).2 = more.map (refusal? columns.length) := by
  induction more generalizing r rows with
  | nil => simpa [ResultSet.offerAll, taken] using h
  | cons values rest ih =>
    obtain ⟨hfirst, hanswer⟩ := h.offer values
    obtain ⟨hrest, hanswers⟩ := ih hfirst
    simp only [ResultSet.offerAll, hanswer, hanswers, List.map_cons, and_true]
    -- the rows taken from both together are those taken from one and then the other
    have htaken : taken columns.length [values] ++ taken columns.length rest =
        taken columns.length (values :: rest) := by
      rw [taken, taken, taken, ← List.filter_append, List.singleton_append]
    rw [← htaken, ← List.append_assoc]
    exact hrest

/-- A row that is refused changes nothing: neither the rows, nor the count, nor the columns. -/
private theorem offer_fst_of_ne {values : List Value} (h : values.length ≠ r.columns.length) :
    (r.offer values).1 = r := by
  have hadd : r.add values = .error (.rowWidth values.length r.columns.length) := if_neg h
  simp only [ResultSet.offer, hadd]

/-- A column is what the rows taken have in its place. -/
theorem Holds.columnValues (h : Holds columns count rows r)
    (hwidth : ∀ values ∈ rows, values.length = columns.length) {j : Nat}
    (hj : j < columns.length) : (r.columnValues j).map some = rows.map (·[j]?) := by
  have hcell : ∀ values ∈ rows, (values[j]?).map some = some values[j]? := by
    intro values hvalues
    have hlt : j < values.length := by rw [hwidth values hvalues]; exact hj
    simp [hlt]
  rw [ResultSet.columnValues, h.rows_eq, List.filterMap_map, List.map_filterMap]
  calc rows.filterMap (fun values => (values[j]?).map some)
      = rows.filterMap (some ∘ fun values => values[j]?) := List.filterMap_congr hcell
    _ = rows.map (·[j]?) := by rw [List.filterMap_eq_map]

end Offers

/-- **What offers leave.** However a result set is begun, and whatever rows are offered to it,
    it takes exactly those of its width, and refuses each of the others as a fault in the
    execution.  It has its columns, the rows taken, in their order, and the count of the
    beginning with theirs added; the room it was given does not show.  Each of its columns is
    what the rows taken have in its place.  Each of its rows finds by a name the first column of
    the name, and its value there.  A row that it refuses now changes nothing. -/
theorem offers_account (b : Beginning) (offered : List (List Value)) :
    let r := (b.resultSet.offerAll offered).1
    let accepted := taken b.width offered
    Holds b.columns b.count accepted r ∧
    (b.resultSet.offerAll offered).2 = offered.map (refusal? b.width) ∧
    (∀ columns capacity, b = .under columns capacity → b.resultSet = .ofColumns columns) ∧
    (∀ j < b.width, (r.columnValues j).map some = accepted.map (·[j]?)) ∧
    (∀ row ∈ r.rows, ∀ name, row.Finds b.columns name) ∧
    ∀ values, ((r.offer values).2 = none ↔ values.length = b.width) ∧
      ∀ e, (r.offer values).2 = some e → e.kind = .execution ∧ (r.offer values).1 = r := by
  intro r accepted
  obtain ⟨hholds, hanswers⟩ := b.holds.offerAll offered
  rw [List.nil_append] at hholds
  -- an offer that was taken has the width of the result set
  have hwidth : ∀ values ∈ accepted, values.length = b.columns.length :=
    fun values hvalues => of_decide_eq_true (List.mem_filter.mp hvalues).2
  refine ⟨hholds, hanswers, ?_, fun j hj => hholds.columnValues hwidth hj, ?_, fun values => ?_⟩
  · rintro columns capacity rfl
    rfl
  · intro row hrow name
    rw [hholds.rows_eq] at hrow
    obtain ⟨values, hvalues, rfl⟩ := List.mem_map.mp hrow
    exact Row.finds (hwidth values hvalues) name
  · have hnext : (r.offer values).2 = refusal? b.width values := (hholds.offer values).2
    rw [hnext, refusal?_eq_none_iff]
    refine ⟨Iff.rfl, fun e he => ?_⟩
    obtain ⟨hmisfit, hkind⟩ := kind_of_refusal? he
    exact ⟨hkind, offer_fst_of_ne (by rw [hholds.columns_eq]; exact hmisfit)⟩

namespace OffersTest

/-- Two columns of one name. -/
def begun : Beginning := .under [⟨"a", none⟩, ⟨"a", some "text"⟩] 10

/-- One row fits, and the rows before and after it do not. -/
def offered : List (List Value) := [[.int 1], [.int 2, .text "x"], []]

def after : ResultSet := (begun.resultSet.offerAll offered).1

end OffersTest

open OffersTest in
/-- The row that fits is there, and what it finds by the name is in the first column. -/
theorem offers_account_of_twins :
    (begun.resultSet.offerAll offered).2 =
      [some (.rowWidth 1 2), none, some (.rowWidth 0 2)] ∧
    after.rowsAffected = 1 ∧ (after.columnValues 1).map some = [some (.text "x")] ∧
    Row.Finds begun.columns ⟨["a", "a"], [.int 2, .text "x"]⟩ "a" ∧
    after.offer [.null] = (after, some (.rowWidth 1 2)) := by
  obtain ⟨hholds, hanswers, -, hcolumn, hfinds, hnext⟩ := offers_account begun offered
  refine ⟨hanswers, hholds.rowsAffected_eq, hcolumn 1 (by decide), hfinds _ ?_ "a", ?_⟩
  · rw [hholds.rows_eq]
    exact List.mem_singleton.mpr rfl
  · exact Prod.ext ((hnext [.null]).2 _ rfl).2 rfl

end ResultSet

end SqlClient
