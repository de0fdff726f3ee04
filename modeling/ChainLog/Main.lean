/-
# The inspection command as a program

The settings come from the environment of the process.  The database is held in
memory and starts with empty tables.
-/
import ChainLog.CommandLine.Inspect

namespace ChainLog.CommandLine

set_option autoImplicit false

/-- The variables that the settings are read from. -/
def variableNames : List String :=
  ["SQLALCHEMY_DATABASE_URI", "RECORD_STORE_PAGE_SIZE", "RECORD_STORE_LOG_LEVEL"]

/-- The variables that are set in the process. -/
def environment : IO (List (String × String)) :=
  variableNames.filterMapM fun name => do
    return (← IO.getEnv name).map fun value => (name, value)

/-- The text of a failure that ends the program. -/
def Failure.message : Failure → String
  | settings e => e.message
  | identifier e => e.message
  | inspection (.read (.storage e)) => e.message?.getD "the database refused the transaction"
  | inspection (.read (.absent a)) => a.message
  | inspection (.read (.broken b)) => b.message
  | inspection (.read (.operand e)) => e.message
  | inspection (.display e) => e.message
  | document e => e.message

end ChainLog.CommandLine

open ChainLog CommandLine in
def main (words : List String) : IO UInt32 := do
  let (_, log, outcome) := inspect Database.empty (← environment) words
  for line in log do
    IO.eprintln line.text
  match outcome with
  | .ok result =>
      IO.print result.output
      if let some usage := result.usage then IO.eprintln usage
      return UInt32.ofNat result.code
  | .error failure =>
      IO.eprintln failure.message
      return 1
