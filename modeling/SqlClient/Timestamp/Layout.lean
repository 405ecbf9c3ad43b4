import SqlClient.Text.Blank
import SqlClient.Text.Digits
import SqlClient.Timestamp

namespace SqlClient

/-!
# Timestamp text

Timestamps are written in one layout and read in several.

* `Timestamp.write` — date, a separator, time, and the shortest exact fraction.
* `Layout.read?` — a layout is a list of items, each taking its part off the front.
* `Timestamp.ofText?` — the layouts tried for text in a timestamp column, in order.
* `Timestamp.ofIso?` — the layout of timestamps inside JSON.
-/

namespace Timestamp

open Text

/-! ### Writing -/

/-- The year: four digits, or a sign and at least four outside 0 to 9999. -/
def writeYear (year : Int) : List Char :=
  if 0 ≤ year ∧ year ≤ 9999 then padded 4 year.toNat
  else (if year < 0 then '-' else '+') :: padded 4 year.natAbs

/-- The fraction of a second: nothing, or the fewest of 3, 6 and 9 digits that are exact. -/
def writeFraction (nanos : Nat) : List Char :=
  if nanos = 0 then []
  else if nanos % 1000000 = 0 then '.' :: padded 3 (nanos / 1000000)
  else if nanos % 1000 = 0 then '.' :: padded 6 (nanos / 1000)
  else '.' :: padded 9 nanos

/-- The text of a timestamp, its time set off from its date by `separator`.  A leap second
    is written as second 60. -/
def writeChars (separator : Char) (t : Timestamp) : List Char :=
  writeYear t.date.year ++ '-' :: padded 2 t.date.month ++ '-' :: padded 2 t.date.day
    ++ separator :: padded 2 t.time.hour ++ ':' :: padded 2 t.time.minute
    ++ ':' :: padded 2 (t.time.second + t.time.nanos / nanosPerSecond)
    ++ writeFraction (t.time.nanos % nanosPerSecond)

/-- The text of a timestamp wherever a cell is shown or bound. -/
def write (t : Timestamp) : String := String.ofList (t.writeChars ' ')

/-- The text of a timestamp as a value of its own. -/
def writeIso (t : Timestamp) : String := String.ofList (t.writeChars 'T')

end Timestamp

/-! ### Layouts -/

/-- A part of a layout. -/
inductive LayoutItem where
  /-- a year: up to four digits, or a sign and any number of them -/
  | year
  | month
  | day
  | hour
  | minute
  | second
  /-- a point and digits, the first nine of which count, or nothing -/
  | fraction
  /-- any amount of white space -/
  | blanks
  | literal (c : Char)
deriving DecidableEq, Repr

/-- What has been read of a timestamp; a layout without a time leaves it at midnight. -/
structure LayoutFields where
  year : Int := 0
  month : Nat := 0
  day : Nat := 0
  hour : Nat := 0
  minute : Nat := 0
  second : Nat := 0
  nanos : Nat := 0

/-- The timestamp the fields stand for, if there is one. -/
def LayoutFields.timestamp? (f : LayoutFields) : Option Timestamp :=
  Timestamp.of? f.year f.month f.day f.hour f.minute f.second f.nanos

namespace LayoutItem

open Text

/-- One or more digits and what follows them. -/
def readAll? (cs : List Char) : Option (Nat × List Char) := readNumber? cs.length cs

/-- A year after any white space. -/
def readYear? (cs : List Char) : Option (Int × List Char) :=
  match skipBlanks cs with
  | '-' :: rest => (readAll? rest).map fun (n, rest) => (-(n : Int), rest)
  | '+' :: rest => (readAll? rest).map fun (n, rest) => ((n : Int), rest)
  | rest => (readNumber? 4 rest).map fun (n, rest) => ((n : Int), rest)

/-- A field of one or two digits after any white space. -/
def readTwo? (cs : List Char) : Option (Nat × List Char) := readNumber? 2 (skipBlanks cs)

/-- Nanoseconds from a point and digits; digits past the ninth are dropped. -/
def readFraction? : List Char → Option (Nat × List Char)
  | '.' :: rest =>
    let (digits, rest) := spanDigits rest
    if digits = [] then none
    else
      let kept := digits.take 9
      some (digitsValue kept * 10 ^ (9 - kept.length), rest)
  | rest => some (0, rest)

/-- Take one item off the front of the text. -/
def read? (item : LayoutItem) (f : LayoutFields) (cs : List Char) :
    Option (LayoutFields × List Char) :=
  match item with
  | year => (readYear? cs).map fun (n, rest) => ({ f with year := n }, rest)
  | month => (readTwo? cs).map fun (n, rest) => ({ f with month := n }, rest)
  | day => (readTwo? cs).map fun (n, rest) => ({ f with day := n }, rest)
  | hour => (readTwo? cs).map fun (n, rest) => ({ f with hour := n }, rest)
  | minute => (readTwo? cs).map fun (n, rest) => ({ f with minute := n }, rest)
  | second => (readTwo? cs).map fun (n, rest) => ({ f with second := n }, rest)
  | fraction => (readFraction? cs).map fun (n, rest) => ({ f with nanos := n }, rest)
  | blanks => some (f, skipBlanks cs)
  | literal c =>
    match cs with
    | [] => none
    | head :: rest => if head = c then some (f, rest) else none

end LayoutItem

/-- A layout of timestamp text. -/
abbrev Layout := List LayoutItem

namespace Layout

/-- Take the items off the front of the text, one after the other. -/
def readItems? : Layout → LayoutFields → List Char → Option (LayoutFields × List Char)
  | [], f, cs => some (f, cs)
  | item :: items, f, cs => do
    let (f, cs) ← item.read? f cs
    readItems? items f cs

/-- The timestamp written in this layout; the text must be used up. -/
def read? (layout : Layout) (cs : List Char) : Option Timestamp := do
  let (f, rest) ← layout.readItems? {} cs
  if rest = [] then f.timestamp? else none

def date : Layout := [.year, .literal '-', .month, .literal '-', .day]

def wholeTime : Layout := [.hour, .literal ':', .minute, .literal ':', .second]

/-- Date and time apart by white space, with a fraction. -/
def spaced : Layout := date ++ .blanks :: wholeTime ++ [.fraction]

/-- Date and time apart by the letter T, with a fraction. -/
def lettered : Layout := date ++ .literal 'T' :: wholeTime ++ [.fraction]

/-- Date and time apart by white space, in whole seconds. -/
def spacedWhole : Layout := date ++ .blanks :: wholeTime

/-- The layouts of timestamp text, in the order they are tried. -/
def all : List Layout := [spaced, lettered, spacedWhole, date]

/-- The layout of timestamps in JSON: white space may stand before each mark and at the end. -/
def iso : Layout :=
  [.year, .blanks, .literal '-', .month, .blanks, .literal '-', .day, .blanks, .literal 'T',
   .hour, .blanks, .literal ':', .minute, .blanks, .literal ':', .second, .fraction, .blanks]

end Layout

namespace Timestamp

/-- The timestamp a text stands for: the first layout that reads it. -/
def ofText? (s : String) : Option Timestamp := Layout.all.findSome? (·.read? s.toList)

/-- The timestamp a JSON text stands for. -/
def ofIso? (s : String) : Option Timestamp := Layout.iso.read? s.toList

end Timestamp

end SqlClient
