/-
# Inspection

What an operator is shown: the records of a chain without their payloads, whether
the chain links up, and the chains of a user.
-/
import ChainLog.Ownership
import ChainLog.Settings
import ChainLog.Text.Json
import ChainLog.Time.Nanoseconds
import ChainLog.Verification

namespace ChainLog

set_option autoImplicit false

/-- A record as it is listed: everything but the payload, of which the size is
told. -/
structure Listing where
  id : String
  host : String
  parent : String
  timestamp : String
  version : Cell
  tag : Cell
  size : Nat
  userId : Cell
  idx : Cell
  createdAt : String
deriving DecidableEq

def Record.listing (r : Record) : Except Time.DisplayError Listing :=
  (Time.formatValue r.timestamp.value).map fun timestamp =>
    ⟨r.id.text, r.chain.host.text, r.parent.text, timestamp, r.version, r.chain.tag,
      r.payload.length, r.userId, r.idx, r.createdAt.unzoned⟩

/-- One line of a printed chain. -/
def Listing.line (l : Listing) : String :=
  Text.Padded.right 6 l.idx.display ++ "  " ++ l.id ++ "  parent=" ++ l.parent ++ "  "
    ++ l.timestamp ++ "  " ++ l.version.display ++ "  user=" ++ l.userId.display ++ "  "
    ++ toString l.size ++ "B"

/-- An identifier as it is shown, of which the text is all there is. -/
structure Shown where
  text : String
deriving DecidableEq

def Uuid.shown (u : Uuid) : Shown := ⟨u.text⟩

/-- Why an inspection fails. -/
inductive InspectionError where
  | read (e : ReadFailure)
  | display (e : Time.DisplayError)
deriving DecidableEq

/-- The listings of what was read. -/
def Reading.listings (r : Reading) : Except InspectionError (List Listing) := do
  let listings ← (r.records.mapM Record.listing).mapError .display
  match r.failure? with
  | some e => throw (.read e)
  | none => return listings

namespace Database

/-- The listings of a chain; nothing of it is listed when one record cannot be, or when
the reading fails after the last record that was read. -/
def describeChain (db : Database) (c : ChainName) (service : Service) :
    List LogLine × Except InspectionError (List Listing) :=
  match db.chain c Uuid.nil service.pageSize with
  | .error e => ([], .error (.read e))
  | .ok chain =>
      ([LogLine.reading c chain.start], (chain.read db).listings)

/-- The number of records of a chain that links up; `host` is the operator's
spelling of the chain's host. -/
def checkChain (db : Database) (host : String) (c : ChainName) (service : Service) :
    List LogLine × Except ReadFailure Nat :=
  match db.verify c service.pageSize with
  | .error e => ([], .error e)
  | .ok n => ([.verified c n, .linked host c.tag.display n], .ok n)

/-- The tip and length of each chain of a user, by host and then by tag. -/
def describeUser (db : Database) (userId : Value) :
    Except StorageError (List (String × List (Cell × Shown × Cell))) := do
  let hosts ← db.status userId
  let s ← db.store
  return hosts.map fun h =>
    (h.1.text, h.2.map fun t => (t.1, t.2.shown, s.lengthOf ⟨h.1, t.1⟩))

end Database

/-- The entries of an object in the order of their keys. -/
def sortedByKey {α : Type} (l : List (String × α)) : List (String × α) :=
  Sorted.sort (fun a b => !(decide (b.1 < a.1))) l

/-- Why there is no document of a user's chains. -/
inductive DocumentError where
  | bytesAsKey
  | bytesAsValue
deriving DecidableEq, Repr

def DocumentError.message : DocumentError → String
  | bytesAsKey => "keys must be str, int, float, bool or None, not bytes"
  | bytesAsValue => "Object of type bytes is not JSON serializable"

/-- A cell as a key of a document: a text. -/
def Cell.key : Cell → Except DocumentError String
  | blob _ => .error .bytesAsKey
  | c => .ok c.display

/-- A cell as a value in a document. -/
def Cell.document : Cell → Except DocumentError Text.Json.Document
  | int n => .ok (.number n)
  | real bits => .ok (.decimal (Float.ofBits bits))
  | text s => .ok (.text s)
  | blob _ => .error .bytesAsValue

/-- The entry of a chain: its tag, its length and its tip. -/
def chainEntry (chain : Cell × Shown × Cell) :
    Except DocumentError (String × Text.Json.Document) := do
  let tag ← chain.1.key
  let length ← chain.2.2.document
  return (tag, .object [("length", length), ("tip", .text chain.2.1.text)])

/-- A user's chains as a document, with all keys in order. -/
def userDocument (hosts : List (String × List (Cell × Shown × Cell))) :
    Except DocumentError Text.Json.Document := do
  let hosts ← hosts.mapM fun h => do
    return (h.1, Text.Json.Document.object (sortedByKey (← h.2.mapM chainEntry)))
  return .object (sortedByKey hosts)

end ChainLog
