/-
# Counting records

Records are counted by conditions on their columns, each a column's name and the
value that it should have.  The identifiers among the values are read first, then the
values are checked against the types of their columns, then handed to the tables.
A record meets a condition when the tables hold the two values for the same; no value
is the same as nothing.
-/
import ChainLog.Database
import ChainLog.Draft

namespace ChainLog

set_option autoImplicit false

/-- Why records cannot be counted. -/
inductive CountError where
  | identifier (e : Uuid.ReadError)
  | unknownColumn (name : String)
  | storage (e : StorageError)
deriving DecidableEq

/-- The column of that name, with the identifier if it is one. -/
def readCondition (name : String) (v : Value) : Except CountError (Field × Value) :=
  match Field.ofName? name with
  | none => .error (.unknownColumn name)
  | some f =>
      match f with
      | .id | .host | .parent => (v.toUuid.map fun u => (f, .uuid u)).mapError .identifier
      | _ => .ok (f, v)

/-- The type of the column takes the value: only bytes for the payload, and no value for
an instant.  Truth values are compared with any column. -/
def Field.comparableWith (f : Field) (v : Value) : Bool :=
  match f, v with
  | _, .none | _, .bool _ | .payload, .bytes .. => true
  | .payload, _ | .createdAt, _ => false
  | _, _ => true

/-- What a record has to be like to meet a condition. -/
def criterion : Field → Value → Except ParameterError (Record → Bool)
  | .id, .uuid u => .ok fun r => r.id = u
  | .host, .uuid u => .ok fun r => r.chain.host = u
  | .parent, .uuid u => .ok fun r => r.parent = u
  | .payload, .bytes _ content => .ok fun r => r.payload = content
  | .timestamp, v => v.inNumbers.map fun c r => c.any r.timestamp.same
  | .userId, v => v.inNumbers.map fun c r => c.any r.userId.same
  | .idx, v => v.inNumbers.map fun c r => c.any r.idx.same
  | .version, v => v.inTexts.map fun c r => c.any r.version.same
  | .tag, v => v.inTexts.map fun c r => c.any r.chain.tag.same
  | _, _ => .ok fun _ => false

/-- The number of records that meet all conditions. -/
def Database.count (db : Database) (conditions : List (String × Value)) :
    Except CountError Nat := do
  let conditions ← conditions.mapM fun c => readCondition c.1 c.2
  if !db.opened then throw (.storage .notOpened)
  if !conditions.all (fun c => c.1.comparableWith c.2) then
    throw (.storage (.parameter .wrongType))
  let s ← db.store.mapError .storage
  let criteria ← conditions.mapM fun c => (criterion c.1 c.2).mapError (.storage ∘ .parameter)
  return s.records.countP fun r => criteria.all (· r)

end ChainLog
