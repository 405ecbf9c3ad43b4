import Mathlib.Algebra.GroupWithZero.Nat
import Mathlib.Data.List.Forall2
import Mathlib.Order.Bounds.Basic
import SqlClient.Table.Grid

namespace SqlClient

/-!
# Grids of fixed width

A grid is lines of one width, and in the line of names and in those of rows every column has its
place, the same in all of them.  There stands the name or the text of the cell, whatever
characters it is made of, and nothing but blanks behind it.  All of that is written as long as no
column is wider than the formatter can pad.

* `Grid.width_strip` — a column is as wide as the longest of its texts.
* `Grid.length_border`, `Grid.length_line` — all lines are of one width.
* `Grid.take_drop_line` — what stands in the place of a column.
* `Grid.parts?_eq` — the formatter writes the lines, unless a column is too wide for it.
* `Table.toText_fixed_width` — the whole grid.
* `Grid.place_toText` — what stands in the text of a grid, by line and column.
-/

namespace Grid

/-! ### Widths -/

/-- The widths of the columns in a grid over a table's first `shown` rows. -/
def widths (t : Table) (shown : Nat) : List Nat := t.columns.map fun c => (strip shown c).width

/-- The width of a line, with its end: every column has a bar and two blanks more than its
    texts. -/
def lineWidth (widths : List Nat) : Nat := (widths.map (· + 3)).sum + 2

/-- Where the texts of a column begin, behind the columns before it, a bar and a blank. -/
def offset (widths : List Nat) (j : Nat) : Nat := ((widths.take j).map (· + 3)).sum + 2

/-- A column is as wide as the longest of its name and the cells shown. -/
theorem width_strip (shown : Nat) (c : Column) :
    IsGreatest {n | n = c.name.length ∨ ∃ i < shown, n = (cellText (c.get i)).length}
      (strip shown c).width := by
  have hmax : ((strip shown c).name.length :: (strip shown c).cells.map List.length).max? =
      some (strip shown c).width := rfl
  obtain ⟨hmem, hle⟩ := List.max?_eq_some_iff.mp hmax
  have hlengths : ∀ n, n ∈ (strip shown c).name.length :: (strip shown c).cells.map List.length ↔
      n = c.name.length ∨ ∃ i < shown, n = (cellText (c.get i)).length := by
    intro n
    simp [strip, eq_comm, String.length_toList]
  constructor
  · exact (hlengths _).mp hmem
  · intro n hn
    exact hle n ((hlengths n).mpr hn)

/-- A column is as wide as its name at least. -/
theorem length_name_le (shown : Nat) (c : Column) :
    c.name.toList.length ≤ (strip shown c).width := by
  rw [String.length_toList]
  exact (width_strip shown c).2 (.inl rfl)

/-- A column is as wide as each of its cells that are shown, at least. -/
theorem length_cellText_le {shown i : Nat} (hi : i < shown) (c : Column) :
    (cellText (c.get i)).length ≤ (strip shown c).width :=
  (width_strip shown c).2 (.inr ⟨i, hi, rfl⟩)

/-! ### Lines -/

/-- A text that fits is padded to the width exactly. -/
theorem length_pad {width : Nat} {text : List Char} (h : text.length ≤ width) :
    (pad width text).length = width := by
  simp only [pad, List.length_append, List.length_replicate]
  omega

/-- A border is as long as every other line. -/
theorem length_border (widths : List Nat) : (border widths).length = lineWidth widths := by
  simp only [border, lineWidth, List.length_append, List.length_flatMap, List.length_cons,
    List.length_replicate, List.length_nil]

/-- A line goes on after a column as it would without it. -/
theorem line_cons (w : Nat) (text : List Char) (widths : List Nat) (texts : List (List Char)) :
    line (w :: widths) (text :: texts) =
      ('|' :: ' ' :: pad w text ++ [' ']) ++ line widths texts := by
  simp [line]

section Line

variable {widths : List Nat} {texts : List (List Char)}
  (h : List.Forall₂ (fun text w => text.length ≤ w) texts widths)

include h

/-- Texts that fit their columns make a line of the width. -/
theorem length_line : (line widths texts).length = lineWidth widths := by
  induction h with
  | nil => rfl
  | cons hfit _ ih =>
    rw [line_cons, List.length_append, ih]
    simp only [List.length_append, List.length_cons, List.length_nil, length_pad hfit, lineWidth,
      List.map_cons, List.sum_cons]
    omega

/-- In the place of a column stands its text, padded. -/
theorem take_drop_line {j w : Nat} {text : List Char} (htext : texts[j]? = some text)
    (hw : widths[j]? = some w) :
    ((line widths texts).drop (offset widths j)).take w = pad w text := by
  induction h generalizing j with
  | nil => exact absurd htext nofun
  | @cons first w' rest widths' hfit _ ih =>
    rw [line_cons]
    cases j with
    | zero =>
      obtain rfl := Option.some.inj htext
      obtain rfl := Option.some.inj hw
      simp [offset, length_pad hfit]
    | succ j =>
      -- the columns before it are the first and those before it in the rest of the line
      have hlength : ('|' :: ' ' :: pad w' first ++ [' ']).length = w' + 3 := by
        simp [length_pad hfit]
      have hoffset : offset (w' :: widths') (j + 1) = w' + 3 + offset widths' j := by
        simp only [offset, List.take_succ_cons, List.map_cons, List.sum_cons]
        omega
      rw [hoffset, ← List.drop_drop, List.drop_left' hlength]
      exact ih (by simpa using htext) (by simpa using hw)

end Line

/-- A line shows a text for every column: in the place of the column stands the text, and nothing
    but blanks behind it. -/
def Shows (t : Table) (widths : List Nat) (text : Column → List Char) (line : List Char) : Prop :=
  ∀ (j : Nat) (c : Column) (w : Nat), t.columns[j]? = some c → widths[j]? = some w →
    (line.drop (offset widths j)).take w =
      text c ++ List.replicate (w - (text c).length) ' '

section Columns

variable {t : Table} {shown : Nat} {text : Column → List Char}
  (h : ∀ c : Column, (text c).length ≤ (strip shown c).width)

include h

/-- Texts that fit into their columns one by one fit in all of them. -/
theorem forall₂_fits : List.Forall₂ (fun text w => text.length ≤ w) (t.columns.map text)
    (widths t shown) := by
  rw [widths, List.forall₂_map_left_iff, List.forall₂_map_right_iff, List.forall₂_same]
  exact fun c _ => h c

/-- The line of texts that fit their columns shows them. -/
theorem shows_line :
    Shows t (widths t shown) text (line (widths t shown) (t.columns.map text)) := by
  intro j c w hc hw
  have htext : (t.columns.map text)[j]? = some (text c) := by
    rw [List.getElem?_map, hc]
    rfl
  exact take_drop_line (forall₂_fits h) htext hw

end Columns

/-! ### The lines of a table -/

/-- The line of a row. -/
def rowLine (t : Table) (shown i : Nat) : List Char :=
  line (widths t shown) (t.columns.map fun c => cellText (c.get i))

/-- The line of the names. -/
def header (t : Table) (shown : Nat) : List Char :=
  line (widths t shown) (t.columns.map fun c => c.name.toList)

/-- The lines of a grid: a border, the names, a border, a line for every row that is shown, and a
    border. -/
theorem parts_eq (t : Table) (shown : Nat) :
    parts t shown = border (widths t shown) :: header t shown :: border (widths t shown) ::
      (List.range shown).map (rowLine t shown) ++ [border (widths t shown)] := by
  simp only [parts, header, List.map_map]
  rfl

/-- The line of the header shows the names of the columns. -/
theorem shows_header (t : Table) (shown : Nat) :
    Shows t (widths t shown) (fun c => c.name.toList) (header t shown) :=
  shows_line (length_name_le shown)

/-- The line of a row shows the texts of its cells. -/
theorem shows_rowLine {shown i : Nat} (hi : i < shown) (t : Table) :
    Shows t (widths t shown) (fun c => cellText (c.get i)) (rowLine t shown i) :=
  shows_line (length_cellText_le hi)

/-- All lines of a grid have the same number of characters: three more for each column than it is
    wide, and two. -/
theorem length_of_mem_parts {t : Table} {shown : Nat} {part : List Char}
    (h : part ∈ parts t shown) : part.length = lineWidth (widths t shown) := by
  rw [parts_eq] at h
  simp only [List.cons_append, List.mem_cons, List.mem_append, List.mem_map, List.mem_range,
    List.not_mem_nil, or_false] at h
  rcases h with rfl | rfl | rfl | ⟨i, hi, rfl⟩ | rfl
  · exact length_border _
  · exact length_line (forall₂_fits (length_name_le shown))
  · exact length_border _
  · exact length_line (forall₂_fits (length_cellText_le hi))
  · exact length_border _

/-! ### The formatter -/

/-- What is done in turn, each part on a condition, is done if all conditions hold. -/
private theorem mapM_ite {α β : Type} (P : α → Prop) [DecidablePred P] (f : α → β) (xs : List α) :
    xs.mapM (fun x => if P x then some (f x) else none) =
      if ∀ x ∈ xs, P x then some (xs.map f) else none := by
  induction xs with
  | nil => simp
  | cons x rest ih =>
    rw [List.mapM_cons, ih]
    by_cases hx : P x
    · rw [if_pos hx]
      by_cases hrest : ∀ y ∈ rest, P y
      · rw [if_pos hrest, if_pos (List.forall_mem_cons.mpr ⟨hx, hrest⟩)]
        rfl
      · rw [if_neg hrest, if_neg fun h => hrest (List.forall_mem_cons.mp h).2]
        rfl
    · rw [if_neg hx, if_neg fun h => hx (List.forall_mem_cons.mp h).1]
      rfl

/-- The formatter writes a line of texts, one a column, unless a column is too wide for it. -/
theorem line?_eq {widths : List Nat} {texts : List (List Char)}
    (h : texts.length = widths.length) :
    line? widths texts = if ∀ w ∈ widths, w ≤ widest then some (line widths texts) else none := by
  have hcell (p : List Char × Nat) :
      ((pad? p.2 p.1).map fun padded => '|' :: ' ' :: padded ++ [' ']) =
        if p.2 ≤ widest then some ('|' :: ' ' :: pad p.2 p.1 ++ [' ']) else none := by
    unfold pad?
    split <;> rfl
  have hzip : (∀ p ∈ texts.zip widths, p.2 ≤ widest) ↔ ∀ w ∈ widths, w ≤ widest := by
    have hsnd : (texts.zip widths).map Prod.snd = widths := List.map_snd_zip h.ge
    conv_rhs => rw [← hsnd, List.forall_mem_map]
  simp only [line?, hcell, mapM_ite (fun p : List Char × Nat => p.2 ≤ widest), hzip]
  split
  · simp [line, List.flatMap_def]
  · rfl

/-- **The formatter.** It writes all lines of a grid, unless a column is too wide for it; then it
    breaks down, in the line of names at the latest. -/
theorem parts?_eq (t : Table) (shown : Nat) :
    parts? t shown = if ∀ w ∈ widths t shown, w ≤ widest then some (parts t shown) else none := by
  have hwidths : (t.columns.map (strip shown)).map (·.width) = widths t shown := by
    rw [List.map_map]
    rfl
  have hnames : ((t.columns.map (strip shown)).map (·.name)).length = (widths t shown).length := by
    simp [widths]
  -- every line has one text a column, so what is too wide is so in every line
  have hcells (row : Nat) :
      (t.columns.map fun c => cellText (c.get row)).length = (widths t shown).length := by
    simp [widths]
  have hrows : ((List.range shown).mapM fun row =>
      some (line (widths t shown) (t.columns.map fun c => cellText (c.get row)))) =
        some ((List.range shown).map fun row =>
          line (widths t shown) (t.columns.map fun c => cellText (c.get row))) :=
    List.mapM_pure
  simp only [parts?, parts, hwidths, line?_eq hnames, line?_eq (hcells _)]
  split
  · simp only [hrows, Option.bind_eq_bind, Option.bind_some]
  · rfl

end Grid

namespace Table

/-- The text of a grid is its lines, and the footer if rows are left out. -/
theorem toList_toText {t : Table} (hcolumns : t.columns ≠ []) (limit : Option Nat) :
    (t.toText limit).toList =
      (Grid.parts t (t.shownRows limit)).flatten ++
        if t.shownRows limit < t.rowCount then Grid.footer (t.shownRows limit) t.rowCount
        else [] := by
  rw [toText, if_neg hcolumns, String.toList_ofList]
  split
  · rfl
  · rw [List.append_nil]

/-- The formatter writes the text of a grid, unless a column is too wide for it. -/
theorem toText?_eq {t : Table} (hcolumns : t.columns ≠ []) (limit : Option Nat) :
    t.toText? limit =
      if ∀ w ∈ Grid.widths t (t.shownRows limit), w ≤ Grid.widest then some (t.toText limit)
      else none := by
  simp only [toText?, toText, if_neg hcolumns, Grid.parts?_eq]
  split
  · rfl
  · rfl

/-! ### The whole grid -/

/-- **Fixed width.** The grid of a table with columns is as many lines as rows are shown, and four
    more: a border, the names, a border, the rows, and a border.  A footer follows them exactly if
    rows are left out.  All lines have the same number of characters.  A column is as wide as the
    longest of its name and its cells that are shown, and in its place, which is the same in all
    lines, stands its name or the text of its cell, with nothing but blanks behind it.  So the
    grid is written if no column is wider than 65535 characters.  Otherwise there is no grid, as
    the formatter breaks down. -/
theorem toText_fixed_width {t : Table} (hcolumns : t.columns ≠ []) (limit : Option Nat) :
    ∃ (shown : Nat) (widths : List Nat) (border header : List Char)
      (rows parts : List (List Char)),
      (limit = none → shown = t.rowCount) ∧ (∀ m, limit = some m → shown = min m t.rowCount) ∧
      t.toText? limit = (if ∀ w ∈ widths, w ≤ 65535 then some (String.ofList (parts.flatten ++
        if shown < t.rowCount then Grid.footer shown t.rowCount else [])) else none) ∧
      parts = border :: header :: border :: rows ++ [border] ∧
      rows.length = shown ∧ parts.length = shown + 4 ∧
      (∀ part ∈ parts, part.length = (widths.map (· + 3)).sum + 2) ∧
      widths.length = t.columns.length ∧
      (∀ (j : Nat) (c : Column), t.columns[j]? = some c → ∃ w, widths[j]? = some w ∧
        IsGreatest {n | n = c.name.length ∨ ∃ i < shown, n = (Grid.cellText (c.get i)).length} w) ∧
      border = Grid.border widths ∧
      Grid.Shows t widths (fun c => c.name.toList) header ∧
      ∀ (i : Nat) (row : List Char), rows[i]? = some row →
        Grid.Shows t widths (fun c => Grid.cellText (c.get i)) row := by
  refine ⟨t.shownRows limit, Grid.widths t (t.shownRows limit), _, _, _, _, ?_, ?_, ?_,
    Grid.parts_eq t _, ?_, ?_, fun part hpart => ?_, ?_, ?_, rfl, Grid.shows_header t _, ?_⟩
  · rintro rfl
    rfl
  · rintro m rfl
    rfl
  · rw [toText?_eq hcolumns, ← toList_toText hcolumns, String.ofList_toList]
    rfl
  · rw [List.length_map, List.length_range]
  · simp [Grid.parts_eq]
  · exact Grid.length_of_mem_parts hpart
  · exact List.length_map _
  · intro j c hc
    refine ⟨(Grid.strip (t.shownRows limit) c).width, ?_, Grid.width_strip _ c⟩
    rw [Grid.widths, List.getElem?_map, hc]
    rfl
  · -- the `i`-th row line is made of the cells of the `i`-th row
    intro i row hrow
    rw [List.getElem?_map] at hrow
    obtain ⟨k, hk, rfl⟩ := Option.map_eq_some_iff.mp hrow
    obtain ⟨hi, hki⟩ := List.getElem?_eq_some_iff.mp hk
    rw [List.getElem_range] at hki
    subst hki
    rw [List.length_range] at hi
    exact Grid.shows_rowLine hi t

namespace GridTest

/-- A name with a line end, over characters of several bytes, beside numbers. -/
def wide : Table where
  columns := [⟨"é\n", .utf8 [some "日本", none, some "longer"]⟩,
    ⟨"n", .int64 [some 1, some (-22), none]⟩]
  uniform := by decide

def text : String :=
  "+------+-----+\n" ++
  "| é\n   | n   |\n" ++
  "+------+-----+\n" ++
  "| 日本   | 1   |\n" ++
  "| NULL | -22 |\n" ++
  "+------+-----+\n" ++
  "(2 of 3 rows shown)\n"

end GridTest

open GridTest in
/-- Two rows of three are six lines of fifteen characters, whatever the characters are. -/
theorem toText_fixed_width_of_wide :
    wide.columns ≠ [] ∧ wide.toText? (some 2) = some text ∧
    ∃ (widths : List Nat) (rows parts : List (List Char)),
      text.toList = parts.flatten ++ Grid.footer 2 3 ∧ parts.length = 6 ∧ rows.length = 2 ∧
      (∀ part ∈ parts, part.length = (widths.map (· + 3)).sum + 2) ∧
      ∀ (i : Nat) (row : List Char), rows[i]? = some row →
        Grid.Shows wide widths (fun c => Grid.cellText (c.get i)) row := by
  have hcolumns : wide.columns ≠ [] := by decide
  have htext : wide.toText? (some 2) = some text := by decide +kernel
  obtain ⟨shown, widths, border, header, rows, parts, _, hshown, hparts, _, hrows, hlength, hwidth,
    _, _, _, _, hshows⟩ := toText_fixed_width hcolumns (some 2)
  obtain rfl : shown = 2 := hshown 2 rfl
  rw [htext] at hparts
  obtain ⟨_, hwritten⟩ := Option.ite_none_right_eq_some.mp hparts.symm
  have hlist : text.toList = parts.flatten ++ Grid.footer 2 3 := by
    rw [← Option.some.inj hwritten, String.toList_ofList]
    rfl
  exact ⟨hcolumns, htext, widths, rows, parts, hlist, hlength, hrows, hwidth, hshows⟩

/-- A column whose name is one character too long for the formatter, with no rows below it. -/
def GridTest.tooWide : Table where
  columns := [⟨String.ofList (List.replicate 65536 'a'), .int64 []⟩]
  uniform := by decide

open GridTest in
/-- **A grid that is not written.** The formatter breaks down over the name of the only column. -/
theorem no_text_of_tooWide :
    tooWide.columns.map (·.name.length) = [65536] ∧
    ∀ limit, tooWide.toText? limit = none := by
  have hlength : (String.ofList (List.replicate 65536 'a')).length = 65536 := by
    rw [String.length_ofList, List.length_replicate]
  refine ⟨congrArg (fun n => [n]) hlength, fun limit => ?_⟩
  -- the only column is as wide as its name at least
  obtain ⟨w, hmem, hwide⟩ :
      ∃ w ∈ Grid.widths tooWide (tooWide.shownRows limit), Grid.widest < w := by
    refine ⟨_, List.mem_cons_self, ?_⟩
    refine Nat.lt_of_lt_of_le ?_ (Grid.length_name_le (tooWide.shownRows limit) _)
    rw [String.length_toList, hlength]
    decide
  rw [toText?_eq (List.cons_ne_nil _ _), if_neg fun h => absurd (h w hmem) (Nat.not_le.mpr hwide)]

end Table

/-! ### Reading a grid -/

namespace Grid

/-- What stands in the text of a grid, by line and column. -/
def place (widths : List Nat) (line j : Nat) (text : List Char) : List Char :=
  (text.drop (line * lineWidth widths + offset widths j)).take ((widths[j]?).getD 0)

/-- Behind the lines before it, a text of lines of one width goes on with a line. -/
private theorem exists_drop_flatten {lines : List (List Char)} {width k : Nat} {line : List Char}
    (h : ∀ line ∈ lines, line.length = width) (hk : lines[k]? = some line) (footer : List Char) :
    ∃ rest, (lines.flatten ++ footer).drop (k * width) = line ++ rest := by
  induction lines generalizing k with
  | nil => exact absurd hk nofun
  | cons first others ih =>
    obtain ⟨hfirst, hothers⟩ := List.forall_mem_cons.mp h
    rw [List.flatten_cons, List.append_assoc]
    cases k with
    | zero =>
      obtain rfl := Option.some.inj hk
      exact ⟨others.flatten ++ footer, by simp⟩
    | succ k =>
      have hdrop : (k + 1) * width = width + k * width := by rw [Nat.succ_mul, Nat.add_comm]
      rw [hdrop, ← List.drop_drop, List.drop_left' hfirst]
      exact ih hothers (by simpa using hk)

/-- A column of the grid ends before the line does. -/
private theorem offset_add_le {widths : List Nat} {j w : Nat} (h : widths[j]? = some w) :
    offset widths j + w ≤ lineWidth widths := by
  induction widths generalizing j with
  | nil => exact absurd h nofun
  | cons first others ih =>
    simp only [lineWidth, List.map_cons, List.sum_cons]
    cases j with
    | zero =>
      obtain rfl := Option.some.inj h
      simp only [offset, List.take_zero, List.map_nil, List.sum_nil]
      omega
    | succ j =>
      have hrest := ih (j := j) (by simpa using h)
      simp only [offset, lineWidth] at hrest
      simp only [offset, List.take_succ_cons, List.map_cons, List.sum_cons]
      omega

/-- **Reading a cell.** Three lines below a row's number, in the place of a column, stands the text
    of the cell, padded. -/
theorem place_toText {t : Table} {limit : Option Nat} {i j : Nat} {c : Column}
    (hi : i < t.shownRows limit) (hc : t.columns[j]? = some c) :
    place (widths t (t.shownRows limit)) (i + 3) j (t.toText limit).toList =
      pad (strip (t.shownRows limit) c).width (cellText (c.get i)) := by
  have hcolumns : t.columns ≠ [] := List.ne_nil_of_mem (List.mem_of_getElem? hc)
  have hw : (widths t (t.shownRows limit))[j]? = some (strip (t.shownRows limit) c).width := by
    rw [widths, List.getElem?_map, hc]
    rfl
  -- a border, the names and another border stand above the rows
  have hline : (parts t (t.shownRows limit))[i + 3]? = some (rowLine t (t.shownRows limit) i) := by
    rw [parts_eq]
    simp [List.getElem?_append, hi]
  have hwidth := length_of_mem_parts (List.mem_of_getElem? hline)
  have hend := offset_add_le hw
  rw [t.toList_toText hcolumns limit, place, ← List.drop_drop, hw, Option.getD_some]
  obtain ⟨rest, hrest⟩ := exists_drop_flatten (fun _ => length_of_mem_parts) hline
    (if t.shownRows limit < t.rowCount then footer (t.shownRows limit) t.rowCount else [])
  rw [hrest, List.drop_append_of_le_length (by omega), List.take_append_of_le_length
    (by rw [List.length_drop]; omega)]
  exact shows_rowLine hi t j c _ hc hw

end Grid

end SqlClient
