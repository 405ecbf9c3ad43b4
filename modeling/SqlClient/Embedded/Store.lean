import SqlClient.Embedded.Database

namespace SqlClient.Embedded

/-!
# Stores

A store holds a database and the handles that are looking at it.  One handle at a time may
write, on a view of its own, and others see nothing of it before it settles.

* `View` — the database as a transaction sees it.
* `Store` — a database with its readers and its writer.
* `Store.look`, `claim`, `settle`, `leave` — what a handle does in a transaction, in this order.

Where changes are logged ahead of the database, readers and the writer do not wait for each
other, but a view that is out of date cannot be written to.  Elsewhere the writer settles
when nobody else is looking, and nobody new may look while it waits for that.
-/

/-- The database as a transaction sees it. -/
structure View where
  content : Database
  /-- how many changes had settled when it was taken -/
  version : Nat
  /-- something was written, even if it came to nothing -/
  touched : Bool
  /-- tables or indexes were made or dropped -/
  reshaped : Bool
deriving DecidableEq, Repr

/-- A database, and the handles at it. -/
structure Store where
  content : Database
  /-- how many changes have settled -/
  version : Nat
  /-- changes are logged ahead of the database -/
  logged : Bool
  /-- a file can be made beside the database file to settle changes with -/
  hasJournal : Bool
  readers : List Nat
  writer : Option Nat
  /-- the writer waits for the readers to leave -/
  waiting : Bool
deriving DecidableEq, Repr

namespace Store

/-- A new store without tables. -/
def empty (hasJournal : Bool) : Store where
  content := .empty
  version := 0
  logged := false
  hasJournal := hasJournal
  readers := []
  writer := none
  waiting := false

/-- Handles other than this one are at the store. -/
def hasOthers (s : Store) (handle : Nat) : Bool :=
  s.readers.any (· ≠ handle) || s.writer.any (· ≠ handle)

/-- Begin to look at the database. -/
def look (s : Store) (handle : Nat) : Except Complaint (Store × View) :=
  if s.waiting && s.writer ≠ some handle then .error .locked
  else
    .ok ({ s with readers := handle :: s.readers.erase handle },
      ⟨s.content, s.version, false, false⟩)

/-- Become the writer, with a view that was taken before. -/
def claim (s : Store) (handle : Nat) (v : View) : Except Complaint Store :=
  if s.writer.any (· ≠ handle) || s.logged && v.version ≠ s.version then .error .locked
  else .ok { s with writer := some handle }

/-- Stop looking and writing, whatever was written being lost. -/
def leave (s : Store) (handle : Nat) : Store :=
  let writing := s.writer = some handle
  { s with
    readers := s.readers.erase handle
    writer := if writing then none else s.writer
    waiting := s.waiting && !writing }

/-- Put a view in the place of the database and leave.  If that is not possible yet the
    writer waits, and `false` tells so. -/
def settle (s : Store) (handle : Nat) (v : View) : Store × Bool :=
  if !v.touched then (s.leave handle, true)
  else if !s.logged && s.hasOthers handle then ({ s with waiting := true }, false)
  else ({ s.leave handle with content := v.content, version := s.version + 1 }, true)

/-- Log changes ahead of the database from now on, which nobody else may be at. -/
def startLog (s : Store) (handle : Nat) : Except Complaint Store :=
  if s.logged then .ok s
  else if s.hasOthers handle then .error .locked
  else if !s.hasJournal then .error .noJournal
  else .ok { s with logged := true }

end Store

end SqlClient.Embedded
