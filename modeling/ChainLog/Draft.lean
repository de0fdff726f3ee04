/-
# Drafts

A draft is a record as its writer proposes it, with anything in its fields.  It
is built by giving all fields, or afresh, with a new identifier and the current
time.  `Draft.check` finds the first thing that is wrong with it, in a fixed order:
fields without a value, a payload that is no bytes, numbers that are no 64-bit
integers.  `Draft.settle` then reads its identifiers one after the other and
leaves each one it has read in the draft, also when a later one cannot be read;
the result is an `Entry`, of which only the tag and the version may still be
anything.

A draft that has been stored remembers the entry and the position that it was stored as,
so that it is known what has been assigned to it since (`Draft.keeps`).
-/
import ChainLog.Record
import ChainLog.Uuid.Reading
import ChainLog.Uuid.TimeOrdered
import ChainLog.Value

namespace ChainLog

set_option autoImplicit false

/-- The value is this identifier, not a spelling of it. -/
def Value.equalsUuid (v : Value) (u : Uuid) : Bool :=
  match v with
  | .uuid w => w = u
  | _ => false

/-- The value equals one that has been handed over as a parameter before. -/
def Value.equals (v stored : Value) : Bool :=
  match stored.parameter with
  | .ok (some c) => v.equalsCell c
  | _ => false

/-- The identifier that a value spells; no value spells nil. -/
def Value.toUuid : Value → Except Uuid.ReadError Uuid
  | .none => .ok Uuid.nil
  | .uuid u => .ok u
  | v => Uuid.read v.display

/-- The fields of a draft. -/
inductive Field where
  | id
  | host
  | parent
  | timestamp
  | version
  | tag
  | payload
  | userId
  | idx
  | createdAt
deriving DecidableEq, Repr

/-- The name of a field in messages. -/
def Field.name : Field → String
  | id => "id"
  | host => "host"
  | parent => "parent"
  | timestamp => "timestamp"
  | version => "version"
  | tag => "tag"
  | payload => "data"
  | userId => "user_id"
  | idx => "idx"
  | createdAt => "created_at"

/-- The fields in the order of the columns. -/
def Field.all : List Field :=
  [id, host, parent, timestamp, version, tag, payload, userId, idx, createdAt]

/-- The field of that name. -/
def Field.ofName? (name : String) : Option Field := all.find? (·.name = name)

/-- What is known of when a draft was stored. -/
inductive Creation where
  | pending
  | stored (t : Time.Instant)
  /-- Anything assigned by hand; it cannot be stored. -/
  | assigned (v : Value)

/-- A draft that has passed all checks. -/
structure Entry where
  id : Uuid
  host : Uuid
  tag : Value
  parent : Uuid
  timestamp : Int
  version : Value
  payload : List UInt8
  userId : Int

/-- What has become of a draft before. -/
inductive Origin where
  | new
  /-- It was stored as this entry, at this position. -/
  | stored (e : Entry) (idx : Cell)
  /-- It was stored, and a later attempt to write it has lost it: it can no longer be
  read. -/
  | lost

instance (o : Origin) : Decidable (o = .lost) :=
  match o with
  | .lost => isTrue rfl
  | .new => isFalse nofun
  | .stored _ _ => isFalse nofun

structure Draft where
  id : Value
  host : Value
  parent : Value
  timestamp : Value
  version : Value
  tag : Value
  payload : Value
  userId : Value
  /-- The position last given to the draft by an append, successful or not. -/
  idx : Value
  createdAt : Creation
  origin : Origin

/-- What is wrong with a draft. -/
inductive DraftError where
  | missing (fields : List Field)
  | payloadNotBytes (typeName : String)
  | notInteger (field : Field) (typeName : String)
  | outsideWord (field : Field) (n : Int)
  | badIdentifier (e : Uuid.ReadError)
deriving DecidableEq

def DraftError.message : DraftError → String
  | missing fields =>
      "record is missing required fields: " ++ Value.commas (fields.map Field.name)
  | payloadNotBytes typeName => "record data must be bytes, got " ++ typeName
  | notInteger field typeName => "record " ++ field.name ++ " must be an int, got " ++ typeName
  | outsideWord field n =>
      "record " ++ field.name ++ " " ++ toString n ++ " is outside the signed 64-bit range"
  | badIdentifier e => e.message

/-- The stored form of an entry. -/
def Entry.toRecord (e : Entry) (chain : ChainName) (version idx : Cell)
    (createdAt : Time.Instant) : Record :=
  ⟨e.id, chain, e.parent, .int e.timestamp, version, e.payload, .int e.userId, idx, createdAt⟩

/-- The chain that a host and a tag name, if the tag is a value to the tables. -/
def chainNamed (host : Uuid) (tag : Value) : Except ParameterError (Option ChainName) := do
  tag.checkHashable
  return (← tag.inTexts).map fun label => ⟨host, label⟩

theorem chainNamed_text (host : Uuid) (s : String) :
    chainNamed host (.text s) = .ok (some ⟨host, .text s⟩) := rfl

namespace Draft

def get (d : Draft) : Field → Value
  | .id => d.id
  | .host => d.host
  | .parent => d.parent
  | .timestamp => d.timestamp
  | .version => d.version
  | .tag => d.tag
  | .payload => d.payload
  | .userId => d.userId
  | .idx => d.idx
  | .createdAt =>
      match d.createdAt with
      | .assigned v => v
      | .pending | .stored _ => .none

/-- Assign a field, unchecked. -/
def set (d : Draft) (v : Value) : Field → Draft
  | .id => { d with id := v }
  | .host => { d with host := v }
  | .parent => { d with parent := v }
  | .timestamp => { d with timestamp := v }
  | .version => { d with version := v }
  | .tag => { d with tag := v }
  | .payload => { d with payload := v }
  | .userId => { d with userId := v }
  | .idx => { d with idx := v }
  | .createdAt => { d with createdAt := if v.isNone then .pending else .assigned v }

def setAll (d : Draft) (changes : List (Field × Value)) : Draft :=
  changes.foldl (fun d c => d.set c.2 c.1) d

/-- A draft with all its fields given; its parent must be readable. -/
def given (id host parent timestamp version tag payload userId : Value) :
    Except Uuid.ReadError Draft := do
  let p ← parent.toUuid
  return ⟨id, host, .uuid p, timestamp, version, tag, payload, userId, .none, .pending, .new⟩

/-- A draft with a new identifier, made from random bytes and the clock. -/
def fresh (random : List UInt8) (nanoseconds : Int)
    (host tag version payload userId parent : Value) : Except Uuid.ReadError Draft := do
  let id := Uuid.timeOrdered (Uuid.millisecondsOfNanoseconds nanoseconds) (Uuid.bigEndian random)
  let h ← host.toUuid
  given (.uuid id) (.uuid h) parent (.int nanoseconds) version tag payload userId

/-- The draft starts a chain: its parent is the nil identifier itself, not a
spelling of it. -/
def isHead (d : Draft) : Bool :=
  match d.parent with
  | .uuid u => u = Uuid.nil
  | _ => false

/-- The draft has in a field what it was stored with, as the entry `e` at `idx`.  Its date is
its own as long as nobody assigns one. -/
def keeps (d : Draft) (e : Entry) (idx : Cell) : Field → Bool
  | .id => d.id.equalsUuid e.id
  | .host => d.host.equalsUuid e.host
  | .parent => d.parent.equalsUuid e.parent
  | .timestamp => d.timestamp.equalsCell (.int e.timestamp)
  | .version => d.version.equals e.version
  | .tag => d.tag.equals e.tag
  | .payload => d.payload.equalsCell (.blob e.payload)
  | .userId => d.userId.equalsCell (.int e.userId)
  | .idx => d.idx.equalsCell idx
  | .createdAt =>
      match d.createdAt with
      | .stored _ => true
      | .pending | .assigned _ => false

/-- What has been changed in a draft since it was stored, in the order of the columns. -/
def changes (d : Draft) (e : Entry) (idx : Cell) : List (Field × Value) :=
  (Field.all.filter fun f => !d.keeps e idx f).map fun f => (f, d.get f)

def summary (d : Draft) : String :=
  recordSummary d.id.display d.host.display d.tag.display d.idx.display d.parent.display

/-- The fields that a record cannot do without, in the order they are reported. -/
def required : List Field := [.id, .host, .timestamp, .version, .tag, .payload, .userId]

def missing (d : Draft) : List Field := required.filter fun f => (d.get f).isNone

/-- The bytes of a payload, whatever carries them. -/
def checkPayload : Value → Except DraftError (List UInt8)
  | .bytes _ content => .ok content
  | v => .error (.payloadNotBytes v.typeName)

def checkWord (f : Field) : Value → Except DraftError Int
  | .int n => if IsWord n then .ok n else .error (.outsideWord f n)
  | v => .error (.notInteger f v.typeName)

/-- The payload, timestamp and user of a draft, or the first thing wrong with it. -/
def check (d : Draft) : Except DraftError (List UInt8 × Int × Int) :=
  if d.missing = [] then do
    let payload ← checkPayload d.payload
    let timestamp ← checkWord .timestamp d.timestamp
    let userId ← checkWord .userId d.userId
    return (payload, timestamp, userId)
  else .error (.missing d.missing)

/-- Read an identifier field and leave what was read in the draft. -/
def settleField (d : Draft) (f : Field) : Draft × Except DraftError Uuid :=
  match (d.get f).toUuid with
  | .ok u => (d.set (.uuid u) f, .ok u)
  | .error e => (d, .error (.badIdentifier e))

/-- Check a draft and read its identifiers. -/
def settle (d : Draft) : Draft × Except DraftError Entry :=
  match d.check with
  | .error e => (d, .error e)
  | .ok (payload, timestamp, userId) =>
      match d.settleField .id with
      | (d, .error e) => (d, .error e)
      | (d, .ok id) =>
          match d.settleField .host with
          | (d, .error e) => (d, .error e)
          | (d, .ok host) =>
              match d.settleField .parent with
              | (d, .error e) => (d, .error e)
              | (d, .ok parent) =>
                  (d, .ok ⟨id, host, d.tag, parent, timestamp, d.version, payload, userId⟩)

end Draft

end ChainLog
