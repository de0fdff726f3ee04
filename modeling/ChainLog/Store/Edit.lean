/-
# Editing rows directly

Rows can be changed, deleted and inserted past the rules of appending, in one
transaction of several edits.  An edit may put anything into a column that the
column's type takes; only the keys are kept, and no column may be left without a
value.  An edit that fails undoes all of them.

A change to a value that the row has already is none.  Of the changes that remain,
the types are checked first, then the values are handed over in the order of the
columns (`Field.bind`, `TipField.bind`), and then the row is put in place of the old.
-/
import ChainLog.Database
import ChainLog.Store.Update

namespace ChainLog

set_option autoImplicit false

/-- The columns of a tip row. -/
inductive TipField where
  | host
  | tag
  | userId
  | tipId
  | length
  | updatedAt
deriving DecidableEq, Repr

/-- The name of a column in messages. -/
def TipField.name : TipField → String
  | host => "host"
  | tag => "tag"
  | userId => "user_id"
  | tipId => "tip_id"
  | length => "length"
  | updatedAt => "updated_at"

/-- The columns in their order. -/
def TipField.all : List TipField := [host, tag, userId, tipId, length, updatedAt]

def TipField.ofName? (name : String) : Option TipField := all.find? (·.name = name)

/-- The values of a record to be inserted. -/
structure RecordValues where
  id : Value
  host : Value
  parent : Value
  timestamp : Value
  version : Value
  tag : Value
  payload : Value
  userId : Value
  idx : Value

/-- The values of a tip row to be inserted. -/
structure TipValues where
  host : Value
  tag : Value
  userId : Value
  tipId : Value
  length : Value

inductive Edit where
  | setRecord (id : Value) (changes : List (Field × Value))
  | deleteRecord (id : Value)
  | insertRecord (values : RecordValues)
  | setTip (host tag : Value) (changes : List (TipField × Value))
  | deleteTip (host tag : Value)
  | insertTip (values : TipValues)

/-- Why a transaction of edits is undone. -/
inductive EditError where
  | identifier (e : Uuid.ReadError)
  | storage (e : StorageError)
  | noSuchRow
  /-- The editor gave up after the last edit. -/
  | abandoned
deriving DecidableEq

def EditError.ofParameter (e : ParameterError) : EditError := storage (.parameter e)

/-! ## Types -/

def TipField.takes (f : TipField) (v : Value) : Bool :=
  match f with
  | .host | .tipId => takenAsIdentifier v
  | .updatedAt => v.isNone
  | .tag | .userId | .length => true

/-! ## Handing over -/

def TipField.bind (f : TipField) (v : Value) : Except ParameterError (Option (Tip → Tip)) :=
  match f with
  | .host =>
      (identifierParameter v).map (·.map fun u t => { t with chain := { t.chain with host := u } })
  | .tag => v.inTexts.map (·.map fun c t => { t with chain := { t.chain with tag := c } })
  | .userId => v.inNumbers.map (·.map fun c t => { t with userId := c })
  | .tipId => (identifierParameter v).map (·.map fun u t => { t with tipId := u })
  | .length => v.inNumbers.map (·.map fun c t => { t with length := c })
  | .updatedAt => .ok none

/-- A row with its columns changed. -/
def changed {κ ρ : Type} [DecidableEq κ] (columns : List κ) (takes : κ → Value → Bool)
    (bind : κ → Value → Except ParameterError (Option (ρ → ρ))) (changes : List (κ × Value))
    (row : ρ) : Except StorageError ρ :=
  match update? columns takes bind changes with
  | .error err => .error (.parameter err)
  | .ok none => .error .ruleBroken
  | .ok (some update) => .ok (update row)

/-! ## Changes that are none -/

def Tip.has (t : Tip) (f : TipField) (v : Value) : Bool :=
  match f with
  | .host => v.equalsUuid t.chain.host
  | .tag => v.equalsCell t.chain.tag
  | .userId => v.equalsCell t.userId
  | .tipId => v.equalsUuid t.tipId
  | .length => v.equalsCell t.length
  | .updatedAt => false

/-! ## Rows -/

namespace Store

def withoutTip (s : Store) (c : ChainName) : Store :=
  { s with tips := s.tips.filter (·.chain ≠ c) }

def replaceTip? (s : Store) (c : ChainName) (t : Tip) : Option Store :=
  if (s.withoutTip c).tips.any (·.chain = t.chain) then none
  else some { s with tips := s.tips.map fun q => if q.chain = c then t else q }

def keptBy (written : Option Store) : Except EditError Store :=
  match written with
  | some s => .ok s
  | none => .error (.storage .ruleBroken)

def setRecord (s : Store) (r : Record) (changes : List (Field × Value)) :
    Except EditError Store := do
  let changes := changes.filter fun c => !r.has c.1 c.2
  let new ← (changed Field.all Field.takes Field.bind changes r).mapError .storage
  keptBy (s.replaceRecord? r.id new)

/-- A changed tag must be one that rows can be looked up by, which is found out last. -/
def setTip (s : Store) (t : Tip) (changes : List (TipField × Value)) : Except EditError Store := do
  let changes := changes.filter fun c => !t.has c.1 c.2
  let new ← (changed TipField.all TipField.takes TipField.bind changes t).mapError .storage
  let s ← keptBy (s.replaceTip? t.chain new)
  ((changes.lookup .tag).elim (.ok ()) Value.checkHashable).mapError .ofParameter
  return s

def insertRecord (s : Store) (r : Record) (values : List (Field × Value)) :
    Except EditError Store := do
  let new ← (changed Field.all Field.takes Field.bind values r).mapError .storage
  keptBy (s.addRecord? new)

def insertTip (s : Store) (t : Tip) (values : List (TipField × Value)) : Except EditError Store := do
  let new ← (changed TipField.all TipField.takes TipField.bind values t).mapError .storage
  let s ← keptBy (s.addTip? new)
  ((values.lookup .tag).elim (.ok ()) Value.checkHashable).mapError .ofParameter
  return s

end Store

/-! ## Transactions -/

/-- The tables, if they have been made. -/
def needTables (tables : Option Store) : Except EditError Store :=
  match tables with
  | some s => .ok s
  | none => .error (.storage .missingTable)

def readId (v : Value) : Except EditError Uuid := v.toUuid.mapError .identifier

/-- The record of an identifier. -/
def findRecord (tables : Option Store) (id : Value) : Except EditError (Store × Record) := do
  let u ← readId id
  let s ← needTables tables
  match s.record? u with
  | none => throw .noSuchRow
  | some r => return (s, r)

/-- The tip row of a chain. -/
def findTip (tables : Option Store) (host tag : Value) : Except EditError (Store × Tip) := do
  let u ← readId host
  tag.checkHashable.mapError .ofParameter
  let s ← needTables tables
  match ← (chainNamed u tag).mapError .ofParameter with
  | none => throw .noSuchRow
  | some c =>
      match s.tip? c with
      | none => throw .noSuchRow
      | some t => return (s, t)

/-- A value as it is written down.  Only integers, truth values and texts are written as
themselves, all others as a dictionary that tells their type. -/
def Value.written : Value → Value
  | .float _ | .uuid _ | .bytes .. | .list _ | .dict _ => .dict []
  | v => v

/-- The values of a record with its identifiers read, the parent first.  The position is
taken as it is written down. -/
def RecordValues.read (v : RecordValues) : Except EditError (List (Field × Value)) := do
  let parent ← readId v.parent
  let id ← readId v.id
  let host ← readId v.host
  return [(.id, .uuid id), (.host, .uuid host), (.parent, .uuid parent),
    (.timestamp, v.timestamp), (.version, v.version), (.tag, v.tag), (.payload, v.payload),
    (.userId, v.userId), (.idx, v.idx.written)]

/-- The values of a tip row with its identifiers read. -/
def TipValues.read (v : TipValues) : Except EditError (List (TipField × Value)) := do
  let host ← readId v.host
  let tipId ← readId v.tipId
  return [(.host, .uuid host), (.tag, v.tag), (.userId, v.userId), (.tipId, .uuid tipId),
    (.length, v.length)]

/-- One edit; rows that are inserted carry the time of the edit. -/
def Edit.apply (now : Time.Instant) (tables : Option Store) : Edit → Except EditError Store
  | .setRecord id changes => do
      let (s, r) ← findRecord tables id
      s.setRecord r changes
  | .deleteRecord id => do
      let (s, r) ← findRecord tables id
      return s.withoutRecord r.id
  | .insertRecord values => do
      let values ← values.read
      let s ← needTables tables
      s.insertRecord { (default : Record) with createdAt := now } values
  | .setTip host tag changes => do
      let (s, t) ← findTip tables host tag
      s.setTip t changes
  | .deleteTip host tag => do
      let (s, t) ← findTip tables host tag
      return s.withoutTip t.chain
  | .insertTip values => do
      let values ← values.read
      let s ← needTables tables
      s.insertTip { (default : Tip) with updatedAt := now } values

/-- All edits or none; `abandon` gives up after the last one.  Without any edit the
tables need not be there. -/
def Database.edit (db : Database) (now : Time.Instant) (edits : List Edit) (abandon : Bool) :
    Except EditError Database := do
  if !db.opened then throw (.storage .notOpened)
  let tables ← edits.foldlM (fun tables e => (e.apply now tables).map some) db.tables
  if abandon then throw .abandoned
  return { db with tables := tables }

end ChainLog
