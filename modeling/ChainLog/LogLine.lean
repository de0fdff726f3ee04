/-
# The log

A log line is an event with a level; its text is made from the event.  A
program shows the lines at or above the level it was asked for.
-/
import ChainLog.Refusal

namespace ChainLog

set_option autoImplicit false

inductive Level where
  | unset
  | debug
  | info
  | warning
  | error
  | critical
deriving DecidableEq, Repr

namespace Level

def rank : Level → Nat
  | unset => 0
  | debug => 10
  | info => 20
  | warning => 30
  | error => 40
  | critical => 50

def name : Level → String
  | unset => "NOTSET"
  | debug => "DEBUG"
  | info => "INFO"
  | warning => "WARNING"
  | error => "ERROR"
  | critical => "CRITICAL"

/-- The level of a name in capitals; two levels have a second name. -/
def ofName? : String → Option Level
  | "NOTSET" => some unset
  | "DEBUG" => some debug
  | "INFO" => some info
  | "WARN" => some warning
  | "WARNING" => some warning
  | "ERROR" => some error
  | "FATAL" => some critical
  | "CRITICAL" => some critical
  | _ => none

end Level

inductive LogLine where
  | appended (id host : Uuid) (tag : Value) (idx : Cell)
  | refused (id host : Uuid) (tag : Value) (r : Refusal)
  | otherOwner (id host : Uuid) (tag : Value) (user : Int) (owner : Cell)
  | reading (chain : ChainName) (start : Cell)
  | verified (chain : ChainName) (count : Nat)
  /-- A check for an operator, who may have spelled the host in any way. -/
  | linked (host tag : String) (count : Nat)
  | absent (a : Absence)
  | defective (b : Broken)
  /-- The tables are there, in the database of the given name. -/
  | tablesReady (database : String)

namespace LogLine

def level : LogLine → Level
  | reading .. | verified .. => .debug
  | appended .. | linked .. | tablesReady .. => .info
  | refused .. | otherOwner .. => .warning
  | absent .. | defective .. => .error

def message : LogLine → String
  | appended id host tag idx =>
      "appended " ++ id.text ++ " to " ++ chainText host tag ++ " at idx " ++ idx.display
  | refused id host tag r =>
      "rejected append of " ++ id.text ++ " to " ++ chainText host tag ++ ": " ++ r.message
  | otherOwner id host tag user owner =>
      "record " ++ id.text ++ " for " ++ chainText host tag ++ " has user " ++ toString user
        ++ ", chain is owned by user " ++ owner.display
  | reading chain start => "reading " ++ chain.text ++ " from idx " ++ start.display
  | verified chain count => "verified " ++ toString count ++ " records of " ++ chain.text
  | linked host tag count =>
      host ++ "/" ++ tag ++ ": " ++ toString count ++ " records link up to the tip"
  | absent a => a.message
  | defective b => "integrity check failed: " ++ b.message
  | tablesReady database => "tables created/ensured on " ++ database

/-- The line as it is shown. -/
def text (l : LogLine) : String := l.level.name ++ " " ++ l.message

/-- The lines at or above a level. -/
def atLeast (threshold : Level) (lines : List LogLine) : List LogLine :=
  lines.filter fun l => threshold.rank ≤ l.level.rank

end LogLine

end ChainLog
