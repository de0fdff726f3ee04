/-
# Databases

A database is a place for the two tables: it may not have been opened, and the
tables may not have been made.  Beside them it may hold the stamp of the schema
revision.  A transaction is a function of the tables; it replaces them or fails.
-/
import ChainLog.Store

namespace ChainLog

set_option autoImplicit false

/-- What a database that is not opened is asked for without a session. -/
inductive Demand where
  /-- To make or drop the tables. -/
  | definitions
  /-- To run a revision. -/
  | transaction
deriving DecidableEq, Repr

/-- Why the database refuses a transaction. -/
inductive StorageError where
  | notOpened
  | noConnection (demand : Demand)
  /-- There is no database whose schema could be read. -/
  | nothingToInspect
  | missingTable
  | tableExists
  /-- A value cannot be handed to a statement. -/
  | parameter (e : ParameterError)
  /-- A key or another rule of the tables would be broken. -/
  | ruleBroken
deriving DecidableEq, Repr

/-- The text of an error, where it has one. -/
def StorageError.message? : StorageError → Option String
  | notOpened => some "database engine is not initialized, call Context().init_session first"
  | noConnection .definitions => some "'NoneType' object has no attribute '_run_ddl_visitor'"
  | noConnection .transaction => some "'NoneType' object has no attribute 'begin'"
  | parameter e => e.message?
  | nothingToInspect | missingTable | tableExists | ruleBroken => none

structure Database where
  opened : Bool
  tables : Option Store
  /-- The table of the revision stamp, if it has been made, and whether the
  revision is stamped in it. -/
  stamp : Option Bool

namespace Database

def unopened : Database := ⟨false, none, none⟩

/-- An opened database without tables. -/
def bare : Database := ⟨true, none, none⟩

/-- An opened database with empty tables. -/
def empty : Database := ⟨true, some Store.empty, none⟩

/-- The tables, as a transaction finds them. -/
def store (db : Database) : Except StorageError Store :=
  if db.opened then
    match db.tables with
    | some s => .ok s
    | none => .error .missingTable
  else .error .notOpened

/-- Open the database; its content stays. -/
def «open» (db : Database) : Database := { db with opened := true }

def withStore (db : Database) (s : Store) : Database := { db with tables := some s }

/-- Make the tables, if they are not there. -/
def createTables (db : Database) : Except StorageError Database :=
  if db.opened then .ok { db with tables := some (db.tables.getD Store.empty) }
  else .error (.noConnection .definitions)

/-- Drop the tables, if they are there. -/
def dropTables (db : Database) : Except StorageError Database :=
  if db.opened then .ok { db with tables := none }
  else .error (.noConnection .definitions)

/-- The table that holds the stamp. -/
def stampTable : String := "alembic_version"

/-- The names of all tables, sorted. -/
def tableNames (db : Database) : List String :=
  (if db.stamp.isSome then [stampTable] else [])
    ++ (if db.tables.isSome then ["record_tips", "records"] else [])

end Database

end ChainLog
