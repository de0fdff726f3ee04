/-
# The schema and its revision

`Table` describes the two tables as the database sees them.  One revision makes
both and its reverse drops them.  A migration moves a database from the revision
it is stamped with to a target; offline it only lists the statements it would send.
The table of the stamp is made as soon as a migration looks for it, and stays.
-/
import ChainLog.Database
import ChainLog.Schema.Target

namespace ChainLog

set_option autoImplicit false

structure Table where
  name : String
  columns : List String
  primaryKey : List String
  uniques : List (String × List String)
  indexes : List (String × List String)
deriving DecidableEq, Repr

namespace Schema

def records : Table :=
  { name := "records"
    columns := ["id", "host", "parent", "timestamp", "version", "tag", "data", "user_id", "idx",
      "created_at"]
    primaryKey := ["id"]
    uniques := [("_records_host_tag_idx_uc", ["host", "tag", "idx"])]
    indexes := [("ix_records_parent", ["parent"]), ("ix_records_user_id", ["user_id"])] }

def tips : Table :=
  { name := "record_tips"
    columns := ["host", "tag", "user_id", "tip_id", "length", "updated_at"]
    primaryKey := ["host", "tag"]
    uniques := []
    indexes := [("ix_record_tips_user_id", ["user_id"])] }

/-- The statements that make a table and its indexes. -/
def Statement.make (t : Table) : List String :=
  ("CREATE TABLE " ++ t.name) :: t.indexes.map fun i => "CREATE INDEX " ++ i.1

/-- The statements that drop a table, its indexes first, in reverse. -/
def Statement.drop (t : Table) : List String :=
  (t.indexes.map fun i => "DROP INDEX " ++ i.1).reverse ++ ["DROP TABLE " ++ t.name]

def upgradeStatements : List String :=
  ["CREATE TABLE " ++ Database.stampTable] ++ Statement.make records ++ Statement.make tips
    ++ ["INSERT INTO " ++ Database.stampTable]

def downgradeStatements : List String :=
  Statement.drop tips ++ Statement.drop records ++ ["DELETE FROM " ++ Database.stampTable]

/-- Why a migration fails. -/
inductive Error where
  | storage (e : StorageError)
  | target (e : TargetError)
deriving DecidableEq

def Error.message? : Error → Option String
  | storage e => e.message?
  | target e => some e.message

end Schema

namespace Database

/-- Make the tables, which must not be there. -/
def makeTables (db : Database) : Except StorageError Database :=
  if db.tables.isSome then .error .tableExists
  else .ok { db with tables := some Store.empty }

/-- Drop the tables, which must be there. -/
def discardTables (db : Database) : Except StorageError Database :=
  if db.tables.isNone then .error .missingTable
  else .ok { db with tables := none }

/-- The revision by itself, on an opened database. -/
def upgrade (db : Database) : Except StorageError Database :=
  if db.opened then db.makeTables else .error (.noConnection .transaction)

/-- The reverse of the revision by itself, on an opened database. -/
def downgrade (db : Database) : Except StorageError Database :=
  if db.opened then db.discardTables else .error (.noConnection .transaction)

/-- What a session sees of the schema: the tables that are there, in the order of their
names. -/
def schema (db : Database) : Except StorageError (List Table) :=
  if db.opened then .ok (if db.tables.isSome then [Schema.tips, Schema.records] else [])
  else .error .nothingToInspect

/-- Move to a target; the migration opens the database by itself.  The stamp is only set
if the move succeeds. -/
def migrate (db : Database) (direction : Schema.Direction) (target : String) :
    Database × Except Schema.Error Unit :=
  if target.toList.contains ':' then (db, .error (.target .rangeRefused))
  else
    let stamped := db.stamp.getD false
    let db := { db with stamp := some stamped }
    match Schema.moves direction stamped target with
    | .error e => (db, .error (.target e))
    | .ok false => (db, .ok ())
    | .ok true =>
        match (match direction with | .up => db.makeTables | .down => db.discardTables) with
        | .error e => (db, .error (.storage e))
        | .ok db => ({ db with stamp := some (direction == .up) }, .ok ())

end Database

namespace Schema

/-- The statements that a migration would send, of the range given. -/
def offlineStatements (direction : Direction) (text : String) :
    Except TargetError (List String) := do
  let (start, target) ← range text
  if start.isNone && direction = .down then throw .rangeNeeded
  let stamped ← start.elim (.ok false) startsStamped
  let moving ← moves direction stamped target
  return if !moving then []
    else match direction with | .up => upgradeStatements | .down => downgradeStatements

def offline (direction : Direction) (text : String) : Except Error (List String) :=
  (offlineStatements direction text).mapError .target

end Schema

end ChainLog
