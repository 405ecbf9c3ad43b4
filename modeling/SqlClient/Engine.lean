import SqlClient.Options
import SqlClient.ResultSet

namespace SqlClient

/-!
# Engines

An engine opens handles and runs statements on them.  What handles share, such as the
database files, is the engine's world; everything else is in the handle.

* `Outcome` — a call into an engine succeeds, fails, or breaks down half way.
* `Engine` — the calls.
-/

/-- What became of a call into an engine. -/
inductive Outcome (α : Type) where
  | done (a : α)
  | failed (e : Error)
  /-- the engine broke down, leaving a last word -/
  | broke (detail : String)
deriving Repr

/-- Success, or the error a call ends in; `onBreak` words a breakdown. -/
def Outcome.toExcept {α : Type} (onBreak : String → Error) : Outcome α → Except Error α
  | done a => .ok a
  | failed e => .error e
  | broke detail => .error (onBreak detail)

/-- A database engine. -/
structure Engine (World Handle : Type) where
  name : String
  /-- open a handle; the number counts the attempts, from 1 -/
  openHandle : World → Nat → Options → World × Outcome Handle
  /-- run one statement with its parameters -/
  submit : World → Handle → String → List Value → World × Handle × Outcome ResultSet
  /-- run statements separated by semicolons, dropping what they return -/
  batch : World → Handle → String → World × Handle × Outcome Unit
  /-- close a handle; it is gone either way -/
  close : World → Handle → World × Except Error Unit

end SqlClient
