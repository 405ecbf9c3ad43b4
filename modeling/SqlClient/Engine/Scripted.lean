import SqlClient.Engine

namespace SqlClient

/-!
# Scripted engines

An engine that follows a script: which opens and closes go wrong, and what it answers to
each statement.  A handle knows its number and how often it was asked for the next one.

* `Script` — the script.
* `Script.engine` — the engine that follows it; its handles share nothing.
-/

/-- How a scripted call goes wrong. -/
inductive Upset where
  | fail (e : Error)
  | breakDown (detail : String)
deriving Repr

/-- The scripted answer to a statement. -/
inductive ScriptedReply where
  | upset (u : Upset)
  | affected (count : Nat)
  | rows (columns : List ColumnMeta) (rows : List (List Value))
deriving Repr

/-- What an engine does, call by call; calls past the end of a list go well. -/
structure Script where
  name : String
  opens : List (Option Upset)
  closes : List (Option Error)
  statements : List (String × ScriptedReply)
deriving Repr

/-- A handle of a scripted engine. -/
structure ScriptedHandle where
  number : Nat
  /-- how often the next number was asked for -/
  calls : Nat
deriving DecidableEq, Repr

namespace Upset

def outcome {α : Type} : Upset → Outcome α
  | fail e => .failed e
  | breakDown detail => .broke detail

end Upset

namespace Script

/-- The reply to a statement text. -/
def reply? (s : Script) (statement : String) : Option ScriptedReply :=
  (s.statements.find? (·.1 = statement)).map (·.2)

/-- Rows added one by one under their columns. -/
def resultOf (columns : List ColumnMeta) (rows : List (List Value)) : Outcome ResultSet :=
  match (ResultSet.ofColumns columns).addAll rows with
  | .ok r => .done r
  | .error e => .failed e

/-- The parameters of a statement as one row. -/
def echo (params : List Value) : Outcome ResultSet :=
  resultOf ((List.range params.length).map fun i => ⟨s!"p{i + 1}", none⟩) [params]

def openHandle (s : Script) (number : Nat) : Outcome ScriptedHandle :=
  match (s.opens[number - 1]?).join with
  | some u => u.outcome
  | none => .done ⟨number, 0⟩

/-- Run a statement: two are the same in every script, the others are looked up. -/
def submit (s : Script) (h : ScriptedHandle) (statement : String) (params : List Value) :
    ScriptedHandle × Outcome ResultSet :=
  if statement = "next" then
    let calls := h.calls + 1
    ({ h with calls := calls }, resultOf [⟨"n", none⟩] [[.int (Int64.ofNat calls)]])
  else if statement = "params" then (h, echo params)
  else
    match s.reply? statement with
    | some (.upset u) => (h, u.outcome)
    | some (.affected count) => (h, .done (.affected count))
    | some (.rows columns rows) => (h, resultOf columns rows)
    | none => (h, .failed (.reported .statement ("unknown statement: " ++ statement)))

/-- A batch goes wrong as the statement of its text does. -/
def batch (s : Script) (h : ScriptedHandle) (sql : String) : ScriptedHandle × Outcome Unit :=
  match s.reply? sql with
  | some (.upset u) => (h, u.outcome)
  | _ => (h, .done ())

def close (s : Script) (h : ScriptedHandle) : Except Error Unit :=
  match (s.closes[h.number - 1]?).join with
  | some e => .error e
  | none => .ok ()

/-- The engine that follows the script. -/
def engine (s : Script) : Engine Unit ScriptedHandle where
  name := s.name
  openHandle _ number _ := ((), s.openHandle number)
  submit _ h statement params := ((), s.submit h statement params)
  batch _ h sql := ((), s.batch h sql)
  close _ h := ((), s.close h)

end Script

end SqlClient
