import SqlClient.Embedded.Store

namespace SqlClient.Embedded

/-!
# Disks

Database files are known by where they are, which many paths may lead to.

* `Location`, `Disk` — places on a disk, and what is there.
* `Disk.locate?` — the place a path leads to.
* `Disk.openFile` — opening a file, or making one.
-/

/-- Where something is: the names of the directories above it, from the top, and its own. -/
abbrev Location := List String

/-- The directories there are, and the database files. -/
structure Disk where
  directories : List Location
  files : List (Location × Store)
deriving DecidableEq, Repr

namespace Disk

/-- A disk without files that has these directories, and the one above them. -/
def ofDirectories (names : List String) : Disk := ⟨[] :: names.map ([·]), []⟩

/-- The most bytes a name may have. -/
def nameLimit : Nat := 255

def file? (d : Disk) (place : Location) : Option Store :=
  (d.files.find? (·.1 = place)).map (·.2)

/-- Put a store in the place of the one at a location. -/
def write (d : Disk) (place : Location) (s : Store) : Disk :=
  { d with files := d.files.map fun f => if f.1 = place then (place, s) else f }

/-! ### Paths -/

/-- The parts of a path between its slashes. -/
def parts (path : String) : List String := path.splitOn "/"

/-- Go on from a location by a part of a path: up, or down to a name.  There is nothing below
    a file. -/
def follow (d : Disk) (place : Location) (part : String) : Option Location :=
  if part = "" ∨ part = "." then some place
  else if part = ".." then some place.dropLast
  else if nameLimit < part.utf8ByteSize ∨ (d.file? place).isSome then none
  else some (place ++ [part])

/-- The place a path leads to. -/
def locate? (d : Disk) (path : String) : Option Location := (parts path).foldlM d.follow []

/-- A file may be made at a location. -/
def hasRoom (d : Disk) (place : Location) : Bool :=
  place ≠ [] && d.directories.contains place.dropLast && !d.directories.contains place

/-- A file of a name may have another beside it whose name is longer by eight bytes. -/
def hasJournal (place : Location) : Bool :=
  (place.getLast?.map (·.utf8ByteSize)).getD 0 + 8 ≤ nameLimit

/-- Why there is no file to be opened. -/
inductive Fault where
  | noFile
  /-- a directory, which cannot be read like a file -/
  | directory
deriving DecidableEq, Repr

/-- The place of the file at a path, and the disk with it.  A missing file is made, unless
    the file is only to be read; a directory can be opened to be read, but not any further. -/
def openFile (d : Disk) (path : String) (readOnly : Bool) : Except Fault (Location × Disk) :=
  match d.locate? path with
  | none => .error .noFile
  | some place =>
    if (d.file? place).isSome then .ok (place, d)
    else if readOnly then .error (if d.directories.contains place then .directory else .noFile)
    else if d.hasRoom place then
      .ok (place, { d with files := d.files ++ [(place, .empty (hasJournal place))] })
    else .error .noFile

end Disk

end SqlClient.Embedded
