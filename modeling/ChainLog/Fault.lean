/-
# Faults

Everything that can go wrong with a step of a session, in one type, with its text.
A fault of the database engine itself may have none.
-/
import ChainLog.Append
import ChainLog.CommandLine.Inspect
import ChainLog.Query
import ChainLog.Schema
import ChainLog.Store.Edit

namespace ChainLog

set_option autoImplicit false

inductive Fault where
  | identifier (e : Uuid.ReadError)
  | draft (e : DraftError)
  | refused (r : Refusal) (byKey : Bool)
  | storage (e : StorageError)
  | absent (a : Absence)
  | broken (b : Broken)
  | operand (e : OperandError)
  | document (e : DocumentError)
  /-- A draft's record is gone, and it cannot be written again. -/
  | stale
  /-- A draft can no longer be read. -/
  | lost
  | display (e : Time.DisplayError)
  | settings (e : SettingsError)
  | schema (e : Schema.Error)
  | noSuchRow
  | abandoned
  /-- Records have no column of this name. -/
  | unknownColumn (name : String)
  /-- Nothing is remembered under this name. -/
  | unknownName (name : String)

namespace Fault

def message? : Fault → Option String
  | identifier e => some e.message
  | draft e => some e.message
  | refused r _ => some r.message
  | storage e => e.message?
  | absent a => some a.message
  | broken b => some b.message
  | operand e => some e.message
  | document e => some e.message
  | stale | lost => none
  | display e => some e.message
  | settings e => some e.message
  | schema e => e.message?
  | noSuchRow => some "no such row"
  | abandoned => some "boom"
  | unknownColumn name => some ("type object 'Record' has no attribute '" ++ name ++ "'")
  | unknownName name => some (Text.quoted name)

def ofAppend : AppendError → Fault
  | .draft e => draft e
  | .refused r byKey => refused r byKey
  | .storage e => storage e
  | .operand e => operand e
  | .stale => stale
  | .lost => lost

def ofRead : ReadFailure → Fault
  | .storage e => storage e
  | .absent a => absent a
  | .broken b => broken b
  | .operand e => operand e

def ofCount : CountError → Fault
  | .identifier e => identifier e
  | .unknownColumn name => unknownColumn name
  | .storage e => storage e

def ofEdit : EditError → Fault
  | .identifier e => identifier e
  | .storage e => storage e
  | .noSuchRow => noSuchRow
  | .abandoned => abandoned

def ofInspection : InspectionError → Fault
  | .read e => ofRead e
  | .display e => display e

def ofCommand : CommandLine.Failure → Fault
  | .settings e => settings e
  | .identifier e => identifier e
  | .inspection e => ofInspection e
  | .document e => document e

end Fault

end ChainLog
