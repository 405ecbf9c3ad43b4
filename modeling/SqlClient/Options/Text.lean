import SqlClient.Options
import SqlClient.Text.Quoted

namespace SqlClient

/-!
# Options shown

Options as a registry shows them to someone looking into it.

* `Duration.text` — in the greatest unit that leaves a whole part.
* `Options.text` — all four options.
-/

/-- A whole part and what follows the point, of `places` digits without the zeros at the
    end. -/
def decimalText (whole fraction places : Nat) : String :=
  let digits := (Text.padded places fraction).reverse.dropWhile (· = '0')
  toString whole ++ (if digits = [] then "" else "." ++ String.ofList digits.reverse)

/-- A span of time in seconds, milliseconds, microseconds or nanoseconds. -/
def Duration.text (d : Duration) : String :=
  if d.seconds ≠ 0 then decimalText d.seconds.toNat d.nanos.val 9 ++ "s"
  else if 1000000 ≤ d.nanos.val then
    decimalText (d.nanos.val / 1000000) (d.nanos.val % 1000000) 6 ++ "ms"
  else if 1000 ≤ d.nanos.val then decimalText (d.nanos.val / 1000) (d.nanos.val % 1000) 3 ++ "µs"
  else decimalText d.nanos.val 0 0 ++ "ns"

/-- What may be missing. -/
def optionText {α : Type} (text : α → String) : Option α → String
  | none => "None"
  | some a => "Some(" ++ text a ++ ")"

/-- All four options. -/
def Options.text (o : Options) : String :=
  "ConnectOptions \x7b db_path: " ++ optionText Text.quoted o.dbPath
    ++ ", read_only: " ++ toString o.readOnly
    ++ ", busy_timeout: " ++ optionText Duration.text o.busyTimeout
    ++ ", wal: " ++ toString o.wal ++ " \x7d"

end SqlClient
