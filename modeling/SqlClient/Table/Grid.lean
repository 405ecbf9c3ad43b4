import SqlClient.Binary64.Decimal
import SqlClient.Table

namespace SqlClient

/-!
# Text grids

A table as lines of one width: a border, the names, a border, the rows, a border.  Each
column is as wide as the longest of its name and the cells that are shown.  The formatter that
writes the lines pads a text only so far, and breaks down over a column that is wider.

* `Grid.cellText` — the text of a cell.
* `Grid.parts`, `Grid.parts?` — the lines, and what the formatter makes of them.
* `Table.toText` — the grid of the first rows, and how many were left out.
* `Table.toText?` — the same as the formatter writes it.
-/

namespace Grid

/-- Doubles in a grid never have an exponent, and whole numbers no point. -/
def numberStyle : NumberStyle where
  wholeEnd := ""
  positional := none
  exponentPlus := false
  tie := .up

/-- The text of a cell. -/
def cellText : Value → List Char
  | .null => "NULL".toList
  | .int i => (toString i.toInt).toList
  | .float x => (numberStyle.text x).toList
  | .text s => s.toList
  | .bool b => (toString b).toList
  | .timestamp t => t.write.toList
  | .blob bytes => '\\' :: 'x' :: Text.hex bytes

/-- A column of a grid: its name and the texts of the cells shown. -/
structure Strip where
  name : List Char
  cells : List (List Char)

/-- The column of a grid over a table's first `shown` rows. -/
def strip (shown : Nat) (c : Column) : Strip where
  name := c.name.toList
  cells := (List.range shown).map fun row => cellText (c.get row)

/-- The longest text of a column. -/
def Strip.width (s : Strip) : Nat := (s.cells.map List.length).foldl max s.name.length

/-- Text and blanks up to a width. -/
def pad (width : Nat) (text : List Char) : List Char :=
  text ++ List.replicate (width - text.length) ' '

/-- The line above and below names and rows. -/
def border (widths : List Nat) : List Char :=
  (widths.flatMap fun w => '+' :: List.replicate (w + 2) '-') ++ ['+', '\n']

/-- A line of texts, each at its width. -/
def line (widths : List Nat) (texts : List (List Char)) : List Char :=
  ((texts.zip widths).flatMap fun p => '|' :: ' ' :: pad p.2 p.1 ++ [' ']) ++ ['|', '\n']

/-- The lines of the grid over the first `shown` rows of a table. -/
def parts (t : Table) (shown : Nat) : List (List Char) :=
  let strips := t.columns.map (strip shown)
  let widths := strips.map (·.width)
  let rows := (List.range shown).map fun row =>
    line widths (t.columns.map fun c => cellText (c.get row))
  border widths :: line widths (strips.map (·.name)) :: border widths :: rows ++ [border widths]

/-- The most characters that the formatter pads a text to: it keeps a width in 16 bits, and
    breaks down when it is given more. -/
def widest : Nat := 65535

/-- Text and blanks up to a width, as the formatter writes them. -/
def pad? (width : Nat) (text : List Char) : Option (List Char) :=
  if width ≤ widest then some (pad width text) else none

/-- A line of texts, each padded by the formatter. -/
def line? (widths : List Nat) (texts : List (List Char)) : Option (List Char) := do
  let cells ← (texts.zip widths).mapM fun p =>
    (pad? p.2 p.1).map fun padded => '|' :: ' ' :: padded ++ [' ']
  some (cells.flatten ++ ['|', '\n'])

/-- The lines of the grid, if the formatter gets through all of them. -/
def parts? (t : Table) (shown : Nat) : Option (List (List Char)) := do
  let strips := t.columns.map (strip shown)
  let widths := strips.map (·.width)
  let header ← line? widths (strips.map (·.name))
  let rows ← (List.range shown).mapM fun row =>
    line? widths (t.columns.map fun c => cellText (c.get row))
  some (border widths :: header :: border widths :: rows ++ [border widths])

/-- The line below a grid that leaves rows out. -/
def footer (shown rowCount : Nat) : List Char :=
  (s!"({shown} of {rowCount} rows shown)\n").toList

end Grid

namespace Table

/-- How many rows a limit lets through. -/
def shownRows (t : Table) (limit : Option Nat) : Nat :=
  match limit with
  | none => t.rowCount
  | some m => min m t.rowCount

/-- The grid of the table, or of its first rows up to a limit. -/
def toText (t : Table) (limit : Option Nat) : String :=
  if t.columns = [] then "(empty)\n"
  else
    let shown := t.shownRows limit
    let grid := (Grid.parts t shown).flatten
    String.ofList (if shown < t.rowCount then grid ++ Grid.footer shown t.rowCount else grid)

/-- The same as the formatter writes it; none is its breakdown, with which the caller ends. -/
def toText? (t : Table) (limit : Option Nat) : Option String := do
  if t.columns = [] then some "(empty)\n"
  else
    let shown := t.shownRows limit
    let grid := (← Grid.parts? t shown).flatten
    some (String.ofList
      (if shown < t.rowCount then grid ++ Grid.footer shown t.rowCount else grid))

end Table

end SqlClient
